import Mathlib.Data.List.TakeWhile
import Mathlib.Logic.Relation
import StubResolver.Proofs.Candidate

set_option autoImplicit false

namespace StubResolver.Candidate

def stem (suffix : String) : String := String.ofList (suffix.toList.dropWhile (· = '.'))

theorem withSuffix?_eq (name suffix : String) :
    withSuffix? name suffix =
      if stem suffix = "" then none else some (qualify (qualify name ++ stem suffix)) := by
  unfold withSuffix? stem
  split
  · next hnil =>
    rw [hnil]
    rfl
  · next hcs => rw [if_neg (by rw [String.ofList_eq_empty_iff]; exact hcs)]

def Dots (s : String) : Prop := ∀ c ∈ s.toList, c = '.'

theorem stem_of_dots {s : String} (h : Dots s) : stem s = "" := by
  rw [stem, String.ofList_eq_empty_iff, List.dropWhile_eq_nil_iff]
  exact fun c hc => decide_eq_true (h c hc)

theorem stem_append_of_dots {dots : String} (h : Dots dots) (suffix : String) :
    stem (dots ++ suffix) = stem suffix := by
  rw [stem, String.toList_append, List.dropWhile_append_of_pos fun c hc =>
    decide_eq_true (h c hc), stem]

theorem stem_append_dot (suffix : String) :
    stem (suffix ++ ".") = if stem suffix = "" then "" else stem suffix ++ "." := by
  simp only [stem, String.toList_append, List.dropWhile_append, String.ofList_eq_empty_iff,
    List.isEmpty_iff]
  split
  · rfl
  · rw [String.ofList_append]
    rfl

theorem isQualified_append {front back : String} (h : back ≠ "") :
    isQualified (front ++ back) = isQualified back := by
  have hback : back.toList ≠ [] := fun hnil => h (String.toList_eq_nil_iff.1 hnil)
  rw [isQualified, isQualified, String.toList_append, List.getLast?_append_of_ne_nil _ hback]

theorem isQualified_stem {suffix : String} (h : stem suffix ≠ "") :
    isQualified (stem suffix) = isQualified suffix := by
  have hsplit : suffix = String.ofList (suffix.toList.takeWhile (· = '.')) ++ stem suffix := by
    rw [stem, ← String.ofList_append, List.takeWhile_append_dropWhile, String.ofList_toList]
  have hsame := congrArg isQualified hsplit
  rw [isQualified_append h] at hsame
  exact hsame.symm

theorem withSuffix?_of_dots (name : String) {suffix : String} (h : Dots suffix) :
    withSuffix? name suffix = none := by
  rw [withSuffix?_eq, if_pos (stem_of_dots h)]

theorem withSuffix?_append_of_dots (name : String) {dots : String} (h : Dots dots)
    (suffix : String) :
    withSuffix? name (dots ++ suffix) = withSuffix? name suffix := by
  rw [withSuffix?_eq, withSuffix?_eq, stem_append_of_dots h]

theorem withSuffix?_append_dot (name : String) {suffix : String} (h : isQualified suffix = false) :
    withSuffix? name (suffix ++ ".") = withSuffix? name suffix := by
  rw [withSuffix?_eq, withSuffix?_eq, stem_append_dot]
  by_cases hstem : stem suffix = ""
  · simp [hstem]
  · have hqualified : isQualified (qualify name ++ (stem suffix ++ ".")) = true := by
      rw [← String.append_assoc]
      exact isQualified_iff.2 ⟨_, rfl⟩
    have hrelative : isQualified (qualify name ++ stem suffix) = false := by
      rw [isQualified_append hstem, isQualified_stem hstem, h]
    have hne : stem suffix ++ "." ≠ "" := by simp
    rw [if_neg hstem, if_neg hstem, if_neg hne, qualify_of_relative hrelative,
      String.append_assoc, qualify, if_pos hqualified]

/-- The search lists differ in dots that make no difference. -/
inductive Respells : List String → List String → Prop where
  | leading {dots : String} (before after : List String) (suffix : String) : Dots dots →
    Respells (before ++ suffix :: after) (before ++ (dots ++ suffix) :: after)
  | trailing {suffix : String} (before after : List String) : isQualified suffix = false →
    Respells (before ++ suffix :: after) (before ++ (suffix ++ ".") :: after)
  | dots {dots : String} (before after : List String) : Dots dots →
    Respells (before ++ after) (before ++ dots :: after)

theorem Respells.filterMap_eq {search search' : List String} (h : Respells search search')
    (name : String) :
    search'.filterMap (withSuffix? name) = search.filterMap (withSuffix? name) := by
  cases h with
  | leading before after suffix hdots =>
    simp only [List.filterMap_append, List.filterMap_cons, withSuffix?_append_of_dots name hdots]
  | trailing before after hrelative =>
    simp only [List.filterMap_append, List.filterMap_cons, withSuffix?_append_dot name hrelative]
  | dots before after hdots =>
    simp only [List.filterMap_append, List.filterMap_cons, withSuffix?_of_dots name hdots]

theorem expand_of_respelled {search search' : List String}
    (h : Relation.EqvGen Respells search search') (name : String) (ndots : Nat) :
    expand name ndots search' = expand name ndots search := by
  induction h with
  | rel _ _ h => rw [expand, expand, h.filterMap_eq]
  | refl _ => rfl
  | symm _ _ _ ih => exact ih.symm
  | trans _ _ _ _ _ ih ih' => exact ih'.trans ih

theorem isQualified_of_withSuffix? {name suffix c : String} (h : withSuffix? name suffix = some c) :
    isQualified c = true := by
  rw [withSuffix?_eq] at h
  split at h
  · cases h
  · cases h
    exact isQualified_qualify _

theorem isQualified_of_mem_expand {name c : String} {ndots : Nat} {search : List String}
    (h : c ∈ expand name ndots search) : isQualified c = true := by
  have hsuffixed : ∀ d ∈ search.filterMap (withSuffix? name), isQualified d = true := by
    intro d hd
    obtain ⟨suffix, -, hsome⟩ := List.mem_filterMap.1 hd
    exact isQualified_of_withSuffix? hsome
  unfold expand at h
  split at h
  · next hqualified => rwa [List.mem_singleton.1 h]
  · dsimp only at h
    split at h
    · cases List.mem_cons.1 h with
      | inl hbare => rw [hbare, isQualified_qualify]
      | inr hmem => exact hsuffixed c hmem
    · cases List.mem_append.1 h with
      | inl hmem => exact hsuffixed c hmem
      | inr hbare => rw [List.mem_singleton.1 hbare, isQualified_qualify]

theorem length_le_qualify (name : String) : name.length ≤ (qualify name).length := by
  unfold qualify
  split
  · exact Nat.le_refl _
  · rw [String.length_append]
    exact Nat.le_add_right _ _

theorem length_of_withSuffix? {name suffix c : String} (h : withSuffix? name suffix = some c) :
    (qualify name).length < c.length := by
  rw [withSuffix?_eq] at h
  split at h
  · cases h
  · next hstem =>
    cases h
    have hpos : 0 < (stem suffix).length := by
      rw [Nat.pos_iff_ne_zero, ne_eq, String.length_eq_zero_iff]
      exact hstem
    have hle := length_le_qualify (qualify name ++ stem suffix)
    rw [String.length_append] at hle
    omega

/-- Where the bare name stands among the other candidates. -/
structure Arranged (name : String) (search others : List String) : Prop where
  bare_not_mem : name ++ "." ∉ others
  first : ∀ ndots < labelCount name, expand name ndots search = (name ++ ".") :: others
  last : ∀ ndots, labelCount name ≤ ndots → expand name ndots search = others ++ [name ++ "."]

theorem arranged {name : String} (h : isQualified name = false) (search : List String) :
    Arranged name search (search.filterMap (withSuffix? name)) where
  bare_not_mem := by
    intro hmem
    obtain ⟨suffix, -, hsome⟩ := List.mem_filterMap.1 hmem
    have hlength := length_of_withSuffix? hsome
    rw [qualify_of_relative h] at hlength
    exact Nat.lt_irrefl _ hlength
  first := by
    intro ndots hlt
    simp [expand, h, hlt, qualify_of_relative h]
  last := by
    intro ndots hle
    simp [expand, h, Nat.not_lt.2 hle, qualify_of_relative h]

variable {name : String} {search others : List String}

/-- Unless the bare name is the only candidate, it is the first one just below the threshold. -/
theorem Arranged.head?_eq_iff (h : Arranged name search others) (hne : others ≠ []) (ndots : Nat) :
    (expand name ndots search).head? = some (name ++ ".") ↔ ndots < labelCount name := by
  constructor
  · intro hhead
    by_contra hle
    rw [h.last ndots (Nat.le_of_not_lt hle), List.head?_append_of_ne_nil _ hne] at hhead
    exact h.bare_not_mem (List.mem_of_head? hhead)
  · intro hlt
    rw [h.first ndots hlt, List.head?_cons]

theorem Arranged.perm_cons (h : Arranged name search others) (ndots : Nat) :
    (expand name ndots search).Perm ((name ++ ".") :: others) := by
  rcases Nat.lt_or_ge ndots (labelCount name) with hlt | hle
  · rw [h.first ndots hlt]
  · rw [h.last ndots hle]
    exact List.perm_append_singleton _ _

/-- Raising the threshold does not bring the bare name to the front. -/
theorem Arranged.head?_of_le (h : Arranged name search others) {m n : Nat} (hle : m ≤ n)
    (hhead : (expand name n search).head? = some (name ++ ".")) :
    (expand name m search).head? = some (name ++ ".") := by
  by_cases hne : others = []
  · have halone := h.perm_cons m
    rw [hne, List.perm_singleton] at halone
    rw [halone, List.head?_cons]
  · rw [h.head?_eq_iff hne] at hhead ⊢
    omega

/--
Candidates are fully qualified, so that each is the only candidate of itself. Those of a relative
name are the same for all thresholds, but for the place of the bare name. It stands in front of the
others just if the name has more labels than the threshold says, and else behind them. Search lists
that differ in idle dots give the same candidates.
-/
theorem expansion_laws (name : String) (search : List String) :
    (∀ ndots, ∀ c ∈ expand name ndots search,
      (∃ front, c = front ++ ".") ∧ ∀ ndots' search', expand c ndots' search' = [c]) ∧
    (isQualified name = false →
      Arranged name search (search.filterMap (withSuffix? name)) ∧
      (∀ m n, (expand name m search).Perm (expand name n search)) ∧
      (search.filterMap (withSuffix? name) ≠ [] →
        ∀ n, (expand name n search).head? = some (name ++ ".") ↔ n < labelCount name) ∧
      ∀ m n, m ≤ n → (expand name n search).head? = some (name ++ ".") →
        (expand name m search).head? = some (name ++ ".")) ∧
    ∀ ndots search', Relation.EqvGen Respells search search' →
      expand name ndots search' = expand name ndots search := by
  refine ⟨fun ndots c hc => ?_, fun h => ?_,
    fun ndots search' h => expand_of_respelled h name ndots⟩
  · have hqualified := isQualified_of_mem_expand hc
    exact ⟨isQualified_iff.1 hqualified, expand_of_isQualified hqualified⟩
  · have harranged := arranged h search
    exact ⟨harranged, fun m n => (harranged.perm_cons m).trans (harranged.perm_cons n).symm,
      harranged.head?_eq_iff, fun m n => harranged.head?_of_le⟩

/-- Two thresholds on either side of the number of labels, and a search list in two spellings. -/
theorem expansion_laws_two_labels :
    let search := ["corp.com", "example.org."]
    let respelled := ["..corp.com", "...", "example.org."]
    isQualified "www.lab" = false ∧
      expand "www.lab" 1 search = ["www.lab.", "www.lab.corp.com.", "www.lab.example.org."] ∧
      (expand "www.lab" 2 search).Perm (expand "www.lab" 1 search) ∧
      search.filterMap (withSuffix? "www.lab") ≠ [] ∧
      (expand "www.lab" 2 search).head? ≠ some "www.lab." ∧
        (expand "www.lab" 0 search).head? = some "www.lab." ∧
      "www.lab.corp.com." ∈ expand "www.lab" 2 search ∧
      expand "www.lab.corp.com." 5 respelled = ["www.lab.corp.com."] ∧
      Relation.EqvGen Respells search respelled ∧
        expand "www.lab" 2 respelled = expand "www.lab" 2 search := by
  intro search respelled
  have hrelative : isQualified "www.lab" = false := by decide
  have hbelow : expand "www.lab" 1 search =
    ["www.lab.", "www.lab.corp.com.", "www.lab.example.org."] := by decide
  have hne : search.filterMap (withSuffix? "www.lab") ≠ [] := by decide
  have hmem : "www.lab.corp.com." ∈ expand "www.lab" 2 search := by decide
  have hdots : Dots ".." ∧ Dots "..." := by simp [Dots]
  have hleading : Respells search ["..corp.com", "example.org."] :=
    .leading [] ["example.org."] "corp.com" hdots.1
  have hadded : Respells ["..corp.com", "example.org."] respelled :=
    .dots ["..corp.com"] ["example.org."] hdots.2
  have hspelled : Relation.EqvGen Respells search respelled :=
    .trans _ _ _ (.rel _ _ hleading) (.rel _ _ hadded)
  obtain ⟨hall, hplaces, hsame⟩ := expansion_laws "www.lab" search
  obtain ⟨-, hperm, hfirst, hraise⟩ := hplaces hrelative
  have hcount : labelCount "www.lab" = 2 := by decide
  refine ⟨hrelative, hbelow, hperm 2 1, hne, fun hhead => ?_, ?_, hmem,
    (hall 2 _ hmem).2 5 respelled, hspelled, hsame 2 respelled hspelled⟩
  · have hlt := (hfirst hne 2).1 hhead
    omega
  · exact hraise 0 1 (by decide) (by rw [hbelow]; rfl)

end StubResolver.Candidate
