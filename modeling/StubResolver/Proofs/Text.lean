import Mathlib.Data.List.Basic
import StubResolver.Text.Numeral
import StubResolver.Text.Split

set_option autoImplicit false

namespace StubResolver.Text

section

variable {c : Char} {cs a b : List Char}

theorem splitOnce?_append (h : c ∉ a) : splitOnce? c (a ++ c :: b) = some (a, b) := by
  induction a with
  | nil => rw [List.nil_append, splitOnce?, if_pos rfl]
  | cons x a ih =>
    rw [List.mem_cons, not_or] at h
    rw [List.cons_append, splitOnce?, if_neg (Ne.symm h.1), ih h.2]
    rfl

theorem splitOnce?_of_not_mem (h : c ∉ cs) : splitOnce? c cs = none := by
  induction cs with
  | nil => rfl
  | cons x cs ih =>
    rw [List.mem_cons, not_or] at h
    rw [splitOnce?, if_neg (Ne.symm h.1), ih h.2]
    rfl

theorem splitOnce?_eq_some_iff : splitOnce? c cs = some (a, b) ↔ cs = a ++ c :: b ∧ c ∉ a := by
  constructor
  · intro h
    by_cases hmem : c ∈ cs
    · obtain ⟨a', b', rfl, ha'⟩ := List.eq_append_cons_of_mem hmem
      rw [splitOnce?_append ha'] at h
      cases h
      exact ⟨rfl, ha'⟩
    · rw [splitOnce?_of_not_mem hmem] at h
      cases h
  · rintro ⟨rfl, ha⟩
    exact splitOnce?_append ha

theorem splitOnce?_eq_none_iff : splitOnce? c cs = none ↔ c ∉ cs := by
  refine ⟨fun h hmem => ?_, splitOnce?_of_not_mem⟩
  obtain ⟨a, b, rfl, ha⟩ := List.eq_append_cons_of_mem hmem
  rw [splitOnce?_append ha] at h
  cases h

end

/-- The next character is a cut, or it belongs to the first field. -/
theorem splitOn_cons (c x : Char) (cs : List Char) : ∃ f fs, cs.splitOn c = f :: fs ∧
    (x :: cs).splitOn c = if x = c then [] :: f :: fs else (x :: f) :: fs := by
  obtain ⟨f, fs, h⟩ := List.exists_cons_of_ne_nil (List.splitOn_ne_nil c cs)
  refine ⟨f, fs, h, ?_⟩
  simp only [List.splitOn_cons_eq_if_modifyHead, h, List.modifyHead_cons, beq_iff_eq]

theorem mem_splitOn {c x : Char} {cs : List Char} (h : x ∈ cs) :
    x = c ∨ ∃ f ∈ cs.splitOn c, x ∈ f := by
  induction cs with
  | nil => cases h
  | cons y cs ih =>
    obtain ⟨f, fs, hcs, hcons⟩ := splitOn_cons c y cs
    rw [hcs] at ih
    rw [hcons]
    by_cases hy : y = c
    · rw [if_pos hy]
      cases List.mem_cons.1 h with
      | inl hx => exact .inl (hx.trans hy)
      | inr hx =>
        refine (ih hx).imp id fun hfield => ?_
        obtain ⟨g, hg, hxg⟩ := hfield
        exact ⟨g, List.mem_cons_of_mem [] hg, hxg⟩
    · rw [if_neg hy]
      cases List.mem_cons.1 h with
      | inl hx => exact .inr ⟨y :: f, List.mem_cons_self, hx ▸ List.mem_cons_self⟩
      | inr hx =>
        refine (ih hx).imp id fun hfield => ?_
        obtain ⟨g, hg, hxg⟩ := hfield
        cases List.mem_cons.1 hg with
        | inl hgf => exact ⟨y :: f, List.mem_cons_self, List.mem_cons_of_mem y (hgf ▸ hxg)⟩
        | inr hgf => exact ⟨g, List.mem_cons_of_mem _ hgf, hxg⟩

theorem length_splitOn (c : Char) (cs : List Char) : (cs.splitOn c).length = cs.count c + 1 := by
  induction cs with
  | nil => rfl
  | cons x cs ih =>
    obtain ⟨f, fs, hcs, hcons⟩ := splitOn_cons c x cs
    rw [hcs, List.length_cons] at ih
    rw [hcons]
    by_cases hx : x = c
    · simp [hx, ih]
    · simp [hx, ih]

theorem hexDigit?_digitChar {d : Nat} (h : d < 16) : hexDigit? (Nat.digitChar d) = some d := by
  decide +revert

theorem digits?_concat (digit? : Char → Option Nat) (base n : Nat) (cs : List Char) (c : Char) :
    digits? digit? base n (cs ++ [c]) =
      (digits? digit? base n cs).bind fun m => (digit? c).map fun d => base * m + d := by
  induction cs generalizing n with
  | nil =>
    rw [List.nil_append, digits?, digits?]
    cases digit? c <;> rfl
  | cons x cs ih =>
    rw [List.cons_append, digits?, digits?]
    cases digit? x with
    | none => rfl
    | some d => exact ih _

theorem digits?_toDigits (n : Nat) : digits? hexDigit? 16 0 (Nat.toDigits 16 n) = some n := by
  induction n using Nat.strongRecOn with
  | ind n ih =>
    rw [Nat.toDigits_eq_if (by decide)]
    split
    · next h =>
      simp [digits?, hexDigit?_digitChar h]
    · next h =>
      have hlast := hexDigit?_digitChar (Nat.mod_lt n (by decide : 0 < 16))
      rw [digits?_concat, ih (n / 16) (by omega), hlast, Option.bind_some, Option.map_some,
        Nat.div_add_mod]

theorem digit_of_digits? {digit? : Char → Option Nat} {base n m : Nat} {cs : List Char}
    (h : digits? digit? base n cs = some m) : ∀ c ∈ cs, (digit? c).isSome = true := by
  induction cs generalizing n with
  | nil => simp
  | cons c cs ih =>
    rw [digits?] at h
    cases hc : digit? c with
    | none =>
      rw [hc] at h
      cases h
    | some d =>
      rw [hc] at h
      intro x hx
      cases List.mem_cons.1 hx with
      | inl hx => rw [hx, hc, Option.isSome_some]
      | inr hx => exact ih h x hx

theorem hexDigit?_of_decimalDigit? {c : Char} (h : (decimalDigit? c).isSome = true) :
    (hexDigit? c).isSome = true := by
  unfold decimalDigit? at h
  split at h
  · next hdigit => rw [hexDigit?, if_pos hdigit, Option.isSome_some]
  · cases h

theorem toNat_of_hexDigit? {c : Char} (h : (hexDigit? c).isSome = true) :
    48 ≤ c.toNat ∧ c.toNat ≤ 102 := by
  have hle : ∀ x y : Char, x ≤ y → x.toNat ≤ y.toNat := fun _ _ hxy => hxy
  unfold hexDigit? at h
  split at h
  · next hdigit => exact ⟨hle '0' c hdigit.1, Nat.le_trans (hle c '9' hdigit.2) (by decide)⟩
  · split at h
    · next hdigit => exact ⟨Nat.le_trans (by decide) (hle 'a' c hdigit.1), hle c 'f' hdigit.2⟩
    · split at h
      · next hdigit =>
        exact ⟨Nat.le_trans (by decide) (hle 'A' c hdigit.1),
          Nat.le_trans (hle c 'F' hdigit.2) (by decide)⟩
      · cases h

theorem decimalDigit?_eq (c : Char) :
    decimalDigit? c = if c.isDigit then some (c.toNat - '0'.toNat) else none := by
  have hdigit : ('0' ≤ c ∧ c ≤ '9') ↔ c.isDigit = true := by
    rw [Char.isDigit, Bool.and_eq_true, decide_eq_true_eq, decide_eq_true_eq]
    rfl
  simp only [decimalDigit?, hdigit]

theorem digits?_decimal_iff {n m : Nat} {cs : List Char} :
    digits? decimalDigit? 10 n cs = some m ↔ (∀ c ∈ cs, c.isDigit = true) ∧
      Nat.ofDigitChars 10 cs n = m := by
  induction cs generalizing n with
  | nil => simp [digits?, Nat.ofDigitChars_nil]
  | cons c cs ih =>
    rw [digits?, decimalDigit?_eq]
    by_cases hc : c.isDigit = true
    · rw [if_pos hc, Nat.ofDigitChars_cons, ih, List.forall_mem_cons]
      simp [hc]
    · rw [if_neg hc, List.forall_mem_cons]
      simp [hc]

def IsNumeral (bound : Nat) (cs : List Char) (n : Nat) : Prop :=
  ∃ ds, (cs = ds ∨ cs = '+' :: ds) ∧ ds ≠ [] ∧ (∀ c ∈ ds, c.isDigit = true) ∧
    Nat.ofDigitChars 10 ds 0 = n ∧ n < bound

theorem IsNumeral.not_mem {bound n : Nat} {cs : List Char} (h : IsNumeral bound cs n) {c : Char}
    (hdigit : c.isDigit = false) (hsign : c ≠ '+') : c ∉ cs := by
  obtain ⟨ds, hds, -, hdigits, -⟩ := h
  have hc : c ∉ ds := by
    intro hmem
    rw [hdigits c hmem] at hdigit
    cases hdigit
  obtain rfl | rfl := hds
  · exact hc
  · rw [List.mem_cons, not_or]
    exact ⟨hsign, hc⟩

theorem numeral?_eq_some_iff {bound n : Nat} {cs : List Char} :
    numeral? bound cs = some n ↔ IsNumeral bound cs n := by
  have hread : ∀ ds : List Char,
      (if ds.isEmpty then none else (digits? decimalDigit? 10 0 ds).filter (· < bound)) = some n ↔
        ds ≠ [] ∧ (∀ c ∈ ds, c.isDigit = true) ∧ Nat.ofDigitChars 10 ds 0 = n ∧ n < bound := by
    intro ds
    cases ds with
    | nil => simp
    | cons d ds =>
      rw [if_neg (by simp), Option.filter_eq_some_iff, digits?_decimal_iff, and_assoc]
      simp
  unfold numeral? IsNumeral
  split
  · next r =>
    rw [hread r]
    constructor
    · intro h
      exact ⟨r, .inr rfl, h⟩
    · rintro ⟨ds, hds | hds, hne, hdigits, h⟩
      · -- A sign is no digit.
        have hplus : '+'.isDigit = true := hdigits '+' (hds ▸ List.mem_cons_self)
        exact absurd hplus (by decide)
      · cases hds
        exact ⟨hne, hdigits, h⟩
  · next hsign =>
    rw [hread cs]
    constructor
    · intro h
      exact ⟨cs, .inl rfl, h⟩
    · rintro ⟨ds, hds | hds, h⟩
      · rw [hds]
        exact h
      · exact absurd hds (hsign ds)

theorem isNumeral_toString {bound n : Nat} (h : n < bound) :
    IsNumeral bound (toString n).toList n := by
  have hdigits : (toString n).toList = Nat.toDigits 10 n := by
    rw [Nat.toString_eq_ofList_toDigits, String.toList_ofList]
  refine ⟨Nat.toDigits 10 n, .inl hdigits, Nat.toDigits_ne_nil, ?_,
    Nat.ofDigitChars_ten_toDigits, h⟩
  exact fun c hc => Nat.isDigit_of_mem_toDigits (by decide) (by decide) hc

end StubResolver.Text
