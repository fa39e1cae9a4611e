import StubResolver.Proofs.Name
import StubResolver.Proofs.Text
import StubResolver.Question

set_option autoImplicit false

namespace StubResolver

namespace Text

def dotted (fs : List (List Char)) : List Char := fs.flatMap (· ++ ['.'])

@[simp] theorem dotted_nil : dotted [] = [] := rfl

@[simp] theorem dotted_cons (f : List Char) (fs : List (List Char)) :
    dotted (f :: fs) = f ++ '.' :: dotted fs := by
  simp [dotted]

@[simp] theorem dotted_append (fs gs : List (List Char)) :
    dotted (fs ++ gs) = dotted fs ++ dotted gs :=
  List.flatMap_append

theorem dotted_splitOn (cs : List Char) : dotted (cs.splitOn '.') = cs ++ ['.'] := by
  induction cs with
  | nil => rfl
  | cons c cs ih =>
    obtain ⟨f, fs, hcs, hcons⟩ := splitOn_cons '.' c cs
    rw [hcs] at ih
    rw [hcons]
    split
    · next hdot => simp [hdot, ← ih]
    · simp [← ih]

theorem splitOn_dotted {fs : List (List Char)} (h : ∀ f ∈ fs, '.' ∉ f) :
    (dotted fs).splitOn '.' = fs ++ [[]] := by
  induction fs with
  | nil => rfl
  | cons f fs ih =>
    rw [dotted_cons, List.splitOn_append_cons_self_of_not_mem (h f List.mem_cons_self),
      ih fun g hg => h g (List.mem_cons_of_mem f hg)]
    rfl

theorem getLast?_dotted {fs : List (List Char)} (h : fs ≠ []) :
    (dotted fs).getLast? = some '.' := by
  obtain ⟨gs, f, rfl⟩ := (List.eq_nil_or_concat fs).resolve_left h
  rw [List.concat_eq_append, dotted_append, dotted_cons, dotted_nil, ← List.append_assoc,
    List.getLast?_concat]

end Text

/-- A text without an empty field has no root dot. -/
theorem isQualified_of_splitOn {s : String} {fs : List (List Char)} (h : s.toList.splitOn '.' = fs)
    (hne : ∀ f ∈ fs, f ≠ []) : isQualified s = false := by
  rw [Bool.eq_false_iff]
  intro hqualified
  obtain ⟨front, rfl⟩ := isQualified_iff.1 hqualified
  have hdot : ".".toList = ['.'] := rfl
  rw [String.toList_append, hdot, List.splitOn_append_cons_self, List.splitOn_nil] at h
  exact hne [] (h ▸ List.mem_append_right _ (List.mem_singleton.2 rfl)) rfl

namespace Name

def labelBytes (f : List Char) : Bytes := f.map fun c => UInt8.ofNat c.toNat

/-- The fields are labels, and these are their bytes. -/
inductive Spelled : Bool → List (List Char) → List Bytes → Prop where
  | nil {first : Bool} : Spelled first [] []
  | cons {first : Bool} {f : List Char} {fs : List (List Char)} {ls : List Bytes} : f ≠ [] →
    utf8Length f ≤ 63 →
    validLabel first f = true → Spelled false fs ls → Spelled first (f :: fs) (labelBytes f :: ls)

variable {first : Bool} {fs gs : List (List Char)} {ls ms : List Bytes}

theorem labelsOfText_cons {f : List Char} (hne : f ≠ []) (hlength : utf8Length f ≤ 63)
    (hvalid : validLabel first f = true) (rest : List (List Char)) :
    labelsOfText first (f :: rest) = (labelsOfText false rest).map (labelBytes f :: ·) := by
  rw [labelsOfText, if_neg (Nat.not_lt.2 hlength), if_neg (by simp [hvalid])]
  · cases labelsOfText false rest <;> rfl
  · exact fun hnil _ => hne hnil
  · exact fun _ _ hnil _ => hne hnil

theorem Spelled.labelsOfText_eq (h : Spelled first fs ls) :
    labelsOfText first fs = .ok ls ∧ labelsOfText first (fs ++ [[]]) = .ok ls := by
  induction h with
  | nil => exact ⟨by rw [labelsOfText], by rw [List.nil_append, labelsOfText]⟩
  | cons hne hlength hvalid _ ih =>
    rw [List.cons_append, labelsOfText_cons hne hlength hvalid,
      labelsOfText_cons hne hlength hvalid, ih.1, ih.2]
    exact ⟨rfl, rfl⟩

theorem exists_spelled (h : labelsOfText first fs = .ok ls) :
    ∃ gs, Spelled first gs ls ∧ (fs = gs ∨ fs = gs ++ [[]]) := by
  fun_induction labelsOfText first fs generalizing ls with
  | case1 =>
    cases h
    exact ⟨[], .nil, .inl rfl⟩
  | case2 =>
    cases h
    exact ⟨[], .nil, .inr rfl⟩
  | case3 => cases h
  | case4 => cases h
  | case5 => cases h
  | case6 first f rest hone hmore hlength hvalid ih =>
    obtain ⟨ls', hrest, h⟩ := exists_of_bind h
    cases h
    obtain ⟨gs, hspelled, hgs⟩ := ih hrest
    have hne : f ≠ [] := by
      intro hf
      cases rest with
      | nil => exact hone hf rfl
      | cons g rest => exact hmore g rest hf rfl
    refine ⟨f :: gs, .cons hne (Nat.le_of_not_lt hlength) (by simpa using hvalid) hspelled, ?_⟩
    cases hgs with
    | inl hgs => exact .inl (by rw [hgs])
    | inr hgs => exact .inr (by rw [hgs]; rfl)

def wildcard : Bytes := [0x2a]

theorem validLabel_first {f : List Char} (h : validLabel false f = true) :
    validLabel first f = true := by
  rw [validLabel, Bool.false_and, Bool.false_or] at h
  rw [validLabel, h, Bool.or_true]

theorem validLabel_later {f : List Char} (h : validLabel first f = true)
    (hwildcard : labelBytes f ≠ wildcard) :
    validLabel false f = true := by
  have hstar : f ≠ ['*'] := by
    intro hf
    exact hwildcard (by rw [hf]; rfl)
  simpa [validLabel, hstar] using h

theorem Spelled.earlier (h : Spelled false fs ls) : Spelled first fs ls := by
  cases h with
  | nil => exact .nil
  | cons hne hlength hvalid hrest => exact .cons hne hlength (validLabel_first hvalid) hrest

theorem Spelled.later (h : Spelled first fs ls) (hwildcard : ls.head? ≠ some wildcard) :
    Spelled false fs ls := by
  cases h with
  | nil => exact .nil
  | cons hne hlength hvalid hrest =>
    exact .cons hne hlength (validLabel_later hvalid fun hf => hwildcard (congrArg some hf)) hrest

theorem Spelled.append (h : Spelled first fs ls) (h' : Spelled false gs ms) :
    Spelled first (fs ++ gs) (ls ++ ms) := by
  induction h with
  | nil => exact h'.earlier
  | cons hne hlength hvalid _ ih => exact .cons hne hlength hvalid ih

theorem lt_of_isAlphanum {c : Char} (h : c.isAlphanum = true) : c.toNat < 128 := by
  have hbound : ∀ d : Char, c.val ≤ d.val → d.toNat < 128 → c.toNat < 128 :=
    fun _ hle hd => Nat.lt_of_le_of_lt hle hd
  obtain hletter | hdigit := Bool.or_eq_true_iff.1 h
  · obtain hupper | hlower := Bool.or_eq_true_iff.1 hletter
    · exact hbound 'Z' (of_decide_eq_true hupper).2 (by decide)
    · exact hbound 'z' (of_decide_eq_true (Bool.and_eq_true_iff.1 hlower).2) (by decide)
  · exact hbound '9' (of_decide_eq_true (Bool.and_eq_true_iff.1 hdigit).2) (by decide)

/-- A character of a label is one of ASCII, and no dot. -/
theorem plain_of_validLabel {f : List Char} (h : validLabel first f = true) :
    ∀ c ∈ f, c.toNat < 128 ∧ c ≠ '.' := by
  intro c hc
  rw [validLabel, Bool.or_eq_true] at h
  cases h with
  | inl hstar =>
    have hf : f = ['*'] := by simpa using (Bool.and_eq_true_iff.1 hstar).2
    rw [hf, List.mem_singleton] at hc
    rw [hc]
    decide
  | inr hall =>
    have hchar := List.all_eq_true.1 (Bool.and_eq_true_iff.1 (Bool.and_eq_true_iff.1 hall).1).1 c hc
    simp only [Bool.or_eq_true, decide_eq_true_eq] at hchar
    obtain (halphanum | hunderscore) | hhyphen := hchar
    · refine ⟨lt_of_isAlphanum halphanum, fun hdot => ?_⟩
      rw [hdot] at halphanum
      cases halphanum
    · rw [hunderscore]
      decide
    · rw [hhyphen]
      decide

theorem Spelled.ne_nil (h : Spelled first fs ls) : ∀ f ∈ fs, f ≠ [] := by
  induction h with
  | nil => simp
  | cons hne _ _ _ ih => exact List.forall_mem_cons.2 ⟨hne, ih⟩

theorem Spelled.dot_not_mem (h : Spelled first fs ls) : ∀ f ∈ fs, '.' ∉ f := by
  induction h with
  | nil => simp
  | cons _ _ hvalid _ ih =>
    exact List.forall_mem_cons.2 ⟨fun hmem => (plain_of_validLabel hvalid _ hmem).2 rfl, ih⟩

theorem toLatin1_labelBytes {f : List Char} (h : ∀ c ∈ f, c.toNat < 128) :
    Bytes.toLatin1 (labelBytes f) = String.ofList f := by
  have hchar : ∀ c ∈ f, Char.ofNat (UInt8.ofNat c.toNat).toNat = c := by
    intro c hc
    have hbyte : (UInt8.ofNat c.toNat).toNat = c.toNat :=
      UInt8.toNat_ofNat_of_lt (Nat.lt_trans (h c hc) (by decide))
    rw [hbyte, Char.ofNat_toNat]
  rw [Bytes.toLatin1, labelBytes, List.map_map]
  exact congrArg String.ofList ((List.map_congr_left hchar).trans (List.map_id f))

theorem Spelled.texts (h : Spelled first fs ls) : ls.map Bytes.toLatin1 = fs.map String.ofList := by
  induction h with
  | nil => rfl
  | cons _ _ hvalid _ ih =>
    rw [List.map_cons, List.map_cons, ih,
      toLatin1_labelBytes fun c hc => (plain_of_validLabel hvalid c hc).1]

/-- A label has at least one byte, and a length byte that is no pointer. -/
def Short (ls : List Bytes) : Prop := ∀ l ∈ ls, l ≠ [] ∧ l.length ≤ 63

theorem Spelled.short (h : Spelled first fs ls) : Short ls := by
  induction h with
  | nil => simp [Short]
  | @cons _ f _ _ hne hlength _ _ ih =>
    refine List.forall_mem_cons.2 ⟨⟨?_, ?_⟩, ih⟩
    · rwa [ne_eq, labelBytes, List.map_eq_nil_iff]
    · have hchars := length_le_utf8ByteSize (String.ofList f)
      rw [String.toList_ofList] at hchars
      rw [labelBytes, List.length_map]
      exact Nat.le_trans hchars hlength

theorem Spelled.splitOn_dotted (h : Spelled first fs ls) :
    (Text.dotted fs).splitOn '.' = fs ++ [[]] :=
  Text.splitOn_dotted h.dot_not_mem

/-- A text that is read as a name other than the root has the labels of the name as its fields. -/
theorem spelled_of_ofText {s : String} {n : Name} (h : ofText s = .ok n) (hdot : s ≠ ".")
    (hne : s ≠ "") :
    ∃ fs, fs ≠ [] ∧ Spelled true fs n.labels ∧ (qualify s).toList = Text.dotted fs := by
  obtain ⟨hroot, -⟩ | ⟨-, -, hlabels⟩ := labels_of_ofText h
  · exact absurd hroot hdot
  obtain ⟨fs, hspelled, hfields⟩ := exists_spelled hlabels
  have hdotted := Text.dotted_splitOn s.toList
  cases hfields with
  | inl hfields =>
    have hrelative := isQualified_of_splitOn hfields hspelled.ne_nil
    refine ⟨fs, hfields ▸ List.splitOn_ne_nil '.' s.toList, hspelled, ?_⟩
    rw [qualify_of_relative hrelative, String.toList_append, ← hfields, hdotted]
    rfl
  | inr hfields =>
    rw [hfields, Text.dotted_append, Text.dotted_cons, Text.dotted_nil, List.nil_append,
      List.append_cancel_right_eq] at hdotted
    have hfs : fs ≠ [] := by
      intro hnil
      rw [hnil, Text.dotted_nil] at hdotted
      exact hne (String.toList_eq_nil_iff.1 hdotted.symm)
    refine ⟨fs, hfs, hspelled, ?_⟩
    have hqualified : isQualified s = true := by
      rw [isQualified, ← hdotted, Text.getLast?_dotted hfs, decide_eq_true rfl]
    rw [qualify, if_pos hqualified, hdotted]

theorem short_of_ofText {s : String} {n : Name} (h : ofText s = .ok n) : Short n.labels := by
  obtain ⟨-, rfl⟩ | ⟨-, -, hlabels⟩ := labels_of_ofText h
  · simp [Short, root]
  · obtain ⟨fs, hspelled, -⟩ := exists_spelled hlabels
    exact hspelled.short

theorem ofText_of_spelled {s : String} {n : Name} (h : Spelled true fs n.labels) (hne : fs ≠ [])
    (hs : s.toList = Text.dotted fs) (hsize : s.utf8ByteSize ≤ 255) : ofText s = .ok n := by
  have hdot : s ≠ "." := by
    rintro rfl
    obtain ⟨f, fs, rfl⟩ := List.exists_cons_of_ne_nil hne
    have hlength := congrArg List.length hs
    rw [Text.dotted_cons, List.length_append, List.length_cons] at hlength
    have hpos := List.length_pos_iff.2 (h.ne_nil f List.mem_cons_self)
    have hone : ".".toList.length = 1 := rfl
    omega
  rw [ofText, if_neg hdot, if_neg (Nat.not_lt.2 hsize), hs, h.splitOn_dotted, h.labelsOfText_eq.2]
  rfl

theorem qualify_text_of_spelled {n : Name} (h : Spelled true fs n.labels) (hne : fs ≠ []) :
    (qualify n.text).toList = Text.dotted fs := by
  have hlabels : n.labels ≠ [] := by
    intro hnil
    have htexts := h.texts
    rw [hnil, List.map_nil, eq_comm, List.map_eq_nil_iff] at htexts
    exact hne htexts
  have htext : n.text.toList = ['.'].intercalate fs := by
    rw [text, if_neg hlabels, h.texts, String.toList_intercalate]
    simp [List.map_map]
  have hfields := List.splitOn_intercalate '.' h.dot_not_mem hne
  rw [← htext] at hfields
  have hdotted := Text.dotted_splitOn n.text.toList
  rw [qualify_of_relative (isQualified_of_splitOn hfields h.ne_nil), String.toList_append,
    ← hfields, hdotted]
  rfl

theorem qualify_text {s : String} {n : Name} (h : ofText s = .ok n)
    (hqualified : isQualified s = true) :
    qualify n.text = s := by
  by_cases hdot : s = "."
  · rw [hdot, ofText, if_pos rfl] at h
    cases h
    rw [hdot]
    decide
  · have hne : s ≠ "" := by
      rintro rfl
      cases hqualified
    obtain ⟨fs, hfs, hspelled, htext⟩ := spelled_of_ofText h hdot hne
    rw [← String.toList_inj, qualify_text_of_spelled hspelled hfs, ← htext, qualify,
      if_pos hqualified]

end Name

end StubResolver
