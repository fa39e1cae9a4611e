import Mathlib.Data.List.DropRight
import StubResolver.Proofs.CandidateOrder
import StubResolver.Proofs.QueryForm

set_option autoImplicit false

namespace StubResolver.Candidate

theorem exists_mapM_error_iff {α β ε : Type} {f : α → Except ε β} {l : List α} :
    (∃ e, l.mapM f = .error e) ↔ ∃ a ∈ l, ∃ e, f a = .error e := by
  induction l with
  | nil => simp [pure, Except.pure]
  | cons a l ih =>
    rw [List.mapM_cons, List.exists_mem_cons_iff, ← ih]
    cases ha : f a with
    | error e => simp [bind, Except.bind]
    | ok b =>
      cases hl : l.mapM f with
      | error e => simp [bind, Except.bind]
      | ok r => simp [bind, Except.bind, pure, Except.pure]

variable {question : Question} {ndots : Nat} {search : List String} {ids : Nat → UInt16}

theorem exists_queries_error_iff :
    (∃ e, queries question ndots search ids = .error e) ↔
      ∃ c ∈ expand question.name ndots search, ∃ e, Name.ofText c = .error e := by
  have hone : ∀ (name : String) (i : Nat), (∃ e, (do
      return ⟨ids i, ⟨← Name.ofText name, question.type, question.recordClass⟩⟩ :
        Except CodecError Query) = .error e) ↔
        ∃ e, Name.ofText name = .error e := by
    intro name i
    cases Name.ofText name <;> simp [bind, Except.bind, pure, Except.pure]
  have hnames : expand question.name ndots search =
    (expand question.name ndots search).zipIdx.map Prod.fst := by simp
  rw [queries, exists_mapM_error_iff]
  constructor
  · rintro ⟨⟨name, i⟩, hmem, herror⟩
    rw [hnames]
    exact ⟨name, List.mem_map_of_mem hmem, (hone name i).1 herror⟩
  · rintro ⟨name, hname, herror⟩
    rw [hnames] at hname
    obtain ⟨⟨name, i⟩, hmem, rfl⟩ := List.mem_map.1 hname
    exact ⟨(name, i), hmem, (hone name i).2 herror⟩

/-- The query is read as a message that asks for the candidate, by its
text, and for nothing else. -/
def Reports (question : Question) (candidate : String) (query : Query) : Prop :=
  ∃ m, Message.decode query.encode = .ok m ∧ m.header.id = query.id ∧ m.header.isResponse = false ∧
    m.header.recursionDesired = true ∧
    m.questions.map WireQuestion.toQuestion = [⟨candidate, question.type, question.recordClass⟩] ∧
    m.answers = [] ∧ m.authorities = [] ∧ m.additionals = []

theorem Asks.reports {candidate : String} {query : Query} (h : Asks question candidate query)
    (hqualified : isQualified candidate = true) : Reports question candidate query := by
  obtain ⟨n, hn, hquestion⟩ := h
  have hshort : Name.Short query.question.name.labels := by
    rw [hquestion]
    exact Name.short_of_ofText hn
  have htext : query.question.toQuestion = ⟨candidate, question.type, question.recordClass⟩ := by
    rw [hquestion, WireQuestion.toQuestion, Name.qualify_text hn hqualified]
  exact ⟨query.asMessage, Query.decode_encode hshort, rfl, rfl, rfl,
    congrArg (fun q => [q]) htext, rfl, rfl, rfl⟩

theorem forall₂_reports {qs : List Query} (h : queries question ndots search ids = .ok qs) :
    List.Forall₂ (Reports question) (expand question.name ndots search) qs := by
  have hqualified : ∀ c ∈ expand question.name ndots search, isQualified c = true :=
    fun c => isQualified_of_mem_expand
  refine ((List.forall₂_and_left _ _).2 ⟨hqualified, forall₂_queries h⟩).imp ?_
  rintro c query ⟨hc, hasks⟩
  exact hasks.reports hc

theorem stem_stem (suffix : String) : stem (stem suffix) = stem suffix := by
  rw [stem, stem, String.toList_ofList, List.dropWhile_idempotent]

theorem stem_ne_dot (suffix : String) : stem suffix ≠ "." := by
  intro hdot
  have hstem := stem_stem suffix
  rw [hdot] at hstem
  exact absurd hstem (by decide)

/-- No name but the root starts with a dot. -/
theorem stem_of_ofText {suffix : String} {n : Name} (h : Name.ofText suffix = .ok n)
    (hstem : stem suffix ≠ "") :
    stem suffix = suffix := by
  cases hsuffix : suffix.toList with
  | nil => simp [stem, hsuffix] at hstem
  | cons c cs =>
    by_cases hc : c = '.'
    · obtain ⟨rfl, -⟩ | ⟨-, -, hlabels⟩ := Name.labels_of_ofText h
      · exact absurd rfl hstem
      · obtain ⟨f, fs, -, hfields⟩ := Text.splitOn_cons '.' c cs
        rw [hsuffix, hfields, if_pos hc] at hlabels
        cases hlabels
    · rw [stem, hsuffix, List.dropWhile_cons_of_neg (by simp [hc]), ← hsuffix, String.ofList_toList]

theorem qualify_append {front back : String} (h : back ≠ "") :
    qualify (front ++ back) = front ++ qualify back := by
  rw [qualify, qualify, isQualified_append h]
  split
  · rfl
  · rw [String.append_assoc]

/-- A suffix that is a name on its own, with the dots in front or without them, and
may stand behind another name. -/
structure Appendable (suffix : String) (b : Name) : Prop where
  stem_ne : stem suffix ≠ ""
  named : Name.ofText suffix = .ok b ∨ Name.ofText (stem suffix) = .ok b
  not_wildcard : b.labels.head? ≠ some Name.wildcard

theorem Appendable.stem_named {suffix : String} {b : Name} (h : Appendable suffix b) :
    Name.ofText (stem suffix) = .ok b := by
  cases h.named with
  | inl hsuffix => rwa [stem_of_ofText hsuffix h.stem_ne]
  | inr hstem => exact hstem

variable {name suffix candidate : String} {a b : Name}

theorem ofText_of_withSuffix? (hrelative : isQualified name = false) (hne : name ≠ "")
    (ha : Name.ofText name = .ok a) (hb : Appendable suffix b)
    (h : withSuffix? name suffix = some candidate) (hsize : candidate.utf8ByteSize ≤ 255) :
    Name.ofText candidate = .ok ⟨a.labels ++ b.labels⟩ := by
  have hdot : name ≠ "." := by
    rintro rfl
    cases hrelative
  obtain ⟨fs, hfs, hfront, hname⟩ := Name.spelled_of_ofText ha hdot hne
  obtain ⟨gs, -, hback, hstem⟩ :=
    Name.spelled_of_ofText hb.stem_named (stem_ne_dot suffix) hb.stem_ne
  have htext : candidate.toList = Text.dotted (fs ++ gs) := by
    rw [withSuffix?_eq, if_neg hb.stem_ne, Option.some.injEq, qualify_append hb.stem_ne] at h
    rw [← h, String.toList_append, hname, hstem, Text.dotted_append]
  exact Name.ofText_of_spelled (hfront.append (hback.later hb.not_wildcard))
    (List.append_ne_nil_of_left_ne_nil hfs gs)
    htext hsize

theorem mem_expand_of_withSuffix? (hrelative : isQualified name = false)
    (h : withSuffix? name suffix = some candidate) (hsearch : suffix ∈ search) (ndots : Nat) :
    candidate ∈ expand name ndots search := by
  have hmem : candidate ∈ search.filterMap (withSuffix? name) :=
    List.mem_filterMap.2 ⟨suffix, hsearch, h⟩
  have hperm := (arranged hrelative search).perm_cons ndots
  exact hperm.mem_iff.2 (List.mem_cons_of_mem _ hmem)

theorem labels_of_decode {n : Name} (hn : Name.ofText candidate = .ok n) {query : Query}
    (hquery : query.question.name = n) :
    ∃ m, Message.decode query.encode = .ok m ∧ m.questions.map (·.name.labels) = [n.labels] := by
  have hshort : Name.Short query.question.name.labels := hquery ▸ Name.short_of_ofText hn
  exact ⟨query.asMessage, Query.decode_encode hshort, congrArg (fun n : Name => [n.labels]) hquery⟩

/--
There are queries for all candidates of a question, or for none of them if one is no name. They
are read as what they ask. A name and a suffix that are names on their own make a candidate that
is a name, unless it is too long.
-/
theorem queries_carry_candidates (question : Question) (ndots : Nat) (search : List String)
    (ids : Nat → UInt16) :
    ((∃ e, queries question ndots search ids = .error e) ↔
      ∃ c ∈ expand question.name ndots search, ∃ e, Name.ofText c = .error e) ∧
    (∀ qs, queries question ndots search ids = .ok qs →
      List.Forall₂ (Reports question) (expand question.name ndots search) qs) ∧
    ∀ name suffix a b, name ≠ "" → isQualified name = false → Name.ofText name = .ok a →
      Appendable suffix b →
      ∃ candidate, withSuffix? name suffix = some candidate ∧
        (suffix ∈ search → candidate ∈ expand name ndots search) ∧
        (candidate.utf8ByteSize ≤ 255 → ∃ n, Name.ofText candidate = .ok n ∧
          n.labels = a.labels ++ b.labels ∧
          ∀ query : Query, query.question.name = n → ∃ m, Message.decode query.encode = .ok m ∧
            m.questions.map (·.name.labels) = [a.labels ++ b.labels]) := by
  refine ⟨exists_queries_error_iff, fun qs => forall₂_reports,
    fun name suffix a b hne hrelative ha hb => ?_⟩
  have hsome : withSuffix? name suffix = some (qualify (qualify name ++ stem suffix)) := by
    rw [withSuffix?_eq, if_neg hb.stem_ne]
  refine ⟨_, hsome, fun hsearch => mem_expand_of_withSuffix? hrelative hsome hsearch ndots,
    fun hsize => ?_⟩
  have hn := ofText_of_withSuffix? hrelative hne ha hb hsome hsize
  exact ⟨_, hn, rfl, fun query => labels_of_decode hn⟩

/-- A wildcard may stand in front of a suffix, but not in a suffix;
such a suffix leaves no query. -/
theorem queries_carry_candidates_wildcard :
    let question : Question := .internet "*" .a
    let name : Name := ⟨[Name.wildcard]⟩
    let suffix : Name := ⟨[[99, 111, 114, 112], [99, 111, 109]]⟩
    (Name.ofText "*" = .ok name ∧ Appendable ".corp.com" suffix) ∧
      (∃ qs, queries question 1 [".corp.com"] (fun _ => 7) = .ok qs ∧
        List.Forall₂ (Reports question) ["*.corp.com.", "*."] qs) ∧
      (∃ n, Name.ofText "*.corp.com." = .ok n ∧ n.labels = name.labels ++ suffix.labels) ∧
      ∃ e, queries question 1 [".corp.com", "*.com"] (fun _ => 7) = .error e := by
  intro question name suffix
  have hname : Name.ofText "*" = .ok name := rfl
  have hsuffix : Appendable ".corp.com" suffix := ⟨by decide, .inr rfl, by decide⟩
  have hexpand : expand question.name 1 [".corp.com"] = ["*.corp.com.", "*."] := by decide
  have hqueries : queries question 1 [".corp.com"] (fun _ => 7) =
      .ok [⟨7, ⟨⟨name.labels ++ suffix.labels⟩, .a, .internet⟩⟩, ⟨7, ⟨name, .a, .internet⟩⟩] := by
    rw [queries, hexpand]
    rfl
  obtain ⟨-, hreports, happend⟩ := queries_carry_candidates question 1 [".corp.com"] fun _ => 7
  obtain ⟨herror, -, -⟩ := queries_carry_candidates question 1 [".corp.com", "*.com"] fun _ => 7
  obtain ⟨candidate, hcandidate, -, hfits⟩ :=
    happend "*" ".corp.com" name suffix (by decide) (by decide) hname hsuffix
  cases hcandidate
  obtain ⟨n, hn, hlabels, -⟩ := hfits (by decide)
  refine ⟨⟨hname, hsuffix⟩, ⟨_, hqueries, hexpand ▸ hreports _ hqueries⟩, ⟨n, hn, hlabels⟩,
    herror.2 ⟨"*.*.com.", by decide, ?_⟩⟩
  exact ⟨_, rfl⟩

end StubResolver.Candidate
