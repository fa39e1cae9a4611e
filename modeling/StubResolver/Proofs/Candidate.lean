import Mathlib.Data.List.Forall2
import StubResolver.Candidate
import StubResolver.Proofs.Name

set_option autoImplicit false

namespace StubResolver.Candidate

theorem expand_ne_nil (name : String) (ndots : Nat) (search : List String) :
    expand name ndots search ≠ [] := by
  unfold expand
  split
  · simp
  · dsimp only
    split <;> simp

theorem mapM_eq_ok_iff {α β ε : Type} {f : α → Except ε β} {l : List α} {r : List β} :
    l.mapM f = .ok r ↔ List.Forall₂ (fun a b => f a = .ok b) l r := by
  constructor
  · intro h
    induction l generalizing r with
    | nil =>
      cases h
      exact .nil
    | cons a l ih =>
      rw [List.mapM_cons] at h
      obtain ⟨b, ha, h⟩ := exists_of_bind h
      obtain ⟨r', hl, h⟩ := exists_of_bind h
      cases h
      exact .cons ha (ih hl)
  · intro h
    induction h with
    | nil => rfl
    | cons ha _ ih =>
      rw [List.mapM_cons, ha, ih]
      rfl

theorem expand_of_isQualified {name : String} (h : isQualified name = true) (ndots : Nat)
    (search : List String) :
    expand name ndots search = [name] := if_pos h

theorem queries_of_isQualified {question : Question}
    (h : isQualified question.name = true) (ndots : Nat) (search : List String)
    (ids : Nat → UInt16) :
    queries question ndots search ids =
      (Name.ofText question.name).map fun n =>
        [⟨ids 0, ⟨n, question.type, question.recordClass⟩⟩] := by
  rw [queries, expand_of_isQualified h, List.zipIdx_singleton, List.mapM_cons, List.mapM_nil]
  dsimp only
  cases Name.ofText question.name <;> rfl

def Asks (question : Question) (name : String) (q : Query) : Prop :=
  ∃ n, Name.ofText name = .ok n ∧ q.question = ⟨n, question.type, question.recordClass⟩

theorem forall₂_queries {question : Question} {ndots : Nat} {search : List String}
    {ids : Nat → UInt16} {qs : List Query} (h : queries question ndots search ids = .ok qs) :
    List.Forall₂ (Asks question) (expand question.name ndots search) qs := by
  have hf := mapM_eq_ok_iff.1 h
  have hz : (expand question.name ndots search) =
      (expand question.name ndots search).zipIdx.map Prod.fst := by simp
  rw [hz, List.forall₂_map_left_iff]
  refine hf.imp ?_
  rintro ⟨name, i⟩ q hq
  obtain ⟨n, hn, hq⟩ := exists_of_bind hq
  cases hq
  exact ⟨n, hn, rfl⟩

theorem queries_ne_nil {question : Question} {ndots : Nat} {search : List String}
    {ids : Nat → UInt16} {qs : List Query}
    (h : queries question ndots search ids = .ok qs) : qs ≠ [] := by
  intro hq
  subst hq
  have hn := forall₂_queries h
  exact expand_ne_nil question.name ndots search (List.forall₂_nil_right_iff.1 hn)

theorem exists_of_mem_right {α β : Type} {R : α → β → Prop} {l : List α} {r : List β}
    (h : List.Forall₂ R l r) {b : β} (hb : b ∈ r) : ∃ a, R a b := by
  induction h with
  | nil => simp at hb
  | cons hab _ ih =>
    rcases List.mem_cons.1 hb with rfl | hb
    · exact ⟨_, hab⟩
    · exact ih hb

theorem length_encode_of_mem {question : Question} {ndots : Nat} {search : List String}
    {ids : Nat → UInt16} {qs : List Query}
    (h : queries question ndots search ids = .ok qs) {q : Query} (hq : q ∈ qs) :
    17 ≤ q.encode.length ∧ q.encode.length ≤ 273 := by
  obtain ⟨name, n, hn, hquestion⟩ := exists_of_mem_right (forall₂_queries h) hq
  have hmax := Name.length_encode_of_ofText hn
  have hmin := n.length_encode
  rw [Query.encode, hquestion, WireQuestion.encode]
  simp only [Bytes.ofUInt16, List.length_append, Bytes.length_ofNatBE, List.length_cons,
    List.length_nil]
  omega

end StubResolver.Candidate
