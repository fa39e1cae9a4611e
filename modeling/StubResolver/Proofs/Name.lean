import StubResolver.Proofs.Reader
import StubResolver.Proofs.Text
import StubResolver.Proofs.Utf8

set_option autoImplicit false

namespace StubResolver

theorem length_le_utf8ByteSize (s : String) : s.toList.length ≤ s.utf8ByteSize := by
  have hsize : s.utf8ByteSize = (s.toList.flatMap String.utf8EncodeChar).length := by
    rw [← String.size_toByteArray, ← String.utf8Encode_toList, List.utf8Encode,
      List.size_toByteArray]
  rw [hsize]
  induction s.toList with
  | nil => exact Nat.le_refl 0
  | cons c cs ih =>
    have hc := List.length_pos_iff.2 (String.utf8EncodeChar_ne_nil (c := c))
    rw [List.flatMap_cons, List.length_append, List.length_cons]
    omega

def weight {α : Type} (fields : List (List α)) : Nat := (fields.map fun f => f.length + 1).sum

theorem weight_cons {α : Type} (f : List α) (fs : List (List α)) :
    weight (f :: fs) = f.length + 1 + weight fs := by
  simp [weight]

theorem weight_fields (c : Char) (cs : List Char) : weight (cs.splitOn c) = cs.length + 1 := by
  induction cs with
  | nil => rfl
  | cons x r ih =>
    obtain ⟨f, fs, h, hcons⟩ := Text.splitOn_cons c x r
    rw [h, weight_cons] at ih
    rw [hcons]
    split
    · rw [weight_cons, weight_cons, List.length_nil, List.length_cons]
      omega
    · rw [weight_cons, List.length_cons, List.length_cons]
      omega

namespace Name

theorem weight_labelsOfText {first : Bool} {fields : List (List Char)} {labels : List Bytes}
    (h : labelsOfText first fields = .ok labels) : weight labels ≤ weight fields := by
  fun_induction labelsOfText first fields generalizing labels with
  | case1 =>
    cases h
    exact Nat.le_refl _
  | case2 =>
    cases h
    exact Nat.zero_le _
  | case3 => cases h
  | case4 => cases h
  | case5 => cases h
  | case6 first l rest _ _ _ _ ih =>
    obtain ⟨labels', hrest, h⟩ := exists_of_bind h
    cases h
    rw [weight_cons, weight_cons, List.length_map]
    exact Nat.add_le_add_left (ih hrest) _

theorem length_encode (n : Name) : n.encode.length = weight n.labels + 1 := by
  rw [encode, List.length_append, List.length_singleton]
  induction n.labels with
  | nil => rfl
  | cons l ls ih =>
    rw [List.flatMap_cons, List.length_append, weight_cons, List.length_cons]
    omega

/-- Only the root is not made of the fields of its text. -/
theorem labels_of_ofText {s : String} {n : Name} (h : ofText s = .ok n) :
    s = "." ∧ n = root ∨
      s ≠ "." ∧ s.utf8ByteSize ≤ 255 ∧ labelsOfText true (s.toList.splitOn '.') = .ok n.labels := by
  unfold ofText at h
  split at h
  · next hdot =>
    cases h
    exact .inl ⟨hdot, rfl⟩
  · next hdot =>
    split at h
    · cases h
    · next hsize =>
      obtain ⟨labels, hlabels, h⟩ := exists_of_bind h
      cases h
      exact .inr ⟨hdot, Nat.le_of_not_lt hsize, hlabels⟩

theorem length_encode_of_ofText {s : String} {n : Name} (h : ofText s = .ok n) :
    n.encode.length ≤ 257 := by
  obtain ⟨-, rfl⟩ | ⟨-, hsize, hlabels⟩ := labels_of_ofText h
  · decide
  · have hchars := length_le_utf8ByteSize s
    have hweight := weight_labelsOfText hlabels
    rw [weight_fields] at hweight
    rw [length_encode]
    omega

end Name

end StubResolver
