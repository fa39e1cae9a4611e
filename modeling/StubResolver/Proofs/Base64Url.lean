import StubResolver.Proofs.Utf8
import StubResolver.Text.Base64Url

set_option autoImplicit false

namespace StubResolver.Text.Base64Url

theorem symbol_spec {n : Nat} (h : n < 64) :
    (symbol n).toNat < 128 ∧ value? (UInt8.ofNat (symbol n).toNat) = some n := by
  decide +revert

theorem sextets_lt (b : Bytes) : ∀ n ∈ sextets b, n < 64 := by
  fun_induction sextets b with
  | case1 x y z r ih =>
    have hx := x.toNat_lt
    have hy := y.toNat_lt
    have hz := z.toNat_lt
    simp only [List.forall_mem_cons]
    exact ⟨by omega, by omega, by omega, by omega, ih⟩
  | case2 x y =>
    have hx := x.toNat_lt
    have hy := y.toNat_lt
    simp only [List.forall_mem_cons]
    exact ⟨by omega, by omega, by omega, by simp⟩
  | case3 x =>
    have hx := x.toNat_lt
    simp only [List.forall_mem_cons]
    exact ⟨by omega, by omega, by simp⟩
  | case4 => simp

theorem length_sextets (b : Bytes) : (sextets b).length % 4 ≠ 1 := by
  fun_induction sextets b with
  | case1 x y z r ih =>
    simp only [List.length_cons]
    omega
  | case2 | case3 | case4 => simp

theorem ofNat_eq {n : Nat} {x : UInt8} (h : n % 256 = x.toNat) : UInt8.ofNat n = x := by
  rw [← UInt8.toNat_inj, UInt8.toNat_ofNat', h]

theorem octets?_sextets (b : Bytes) : octets? (sextets b) = some b := by
  fun_induction sextets b with
  | case1 x y z r ih =>
    have hx := x.toNat_lt
    have hy := y.toNat_lt
    have hz := z.toNat_lt
    rw [octets?, ih, ofNat_eq (x := x) (by omega), ofNat_eq (x := y) (by omega),
      ofNat_eq (x := z) (by omega)]
    rfl
  | case2 x y =>
    have hx := x.toNat_lt
    have hy := y.toNat_lt
    rw [octets?, if_pos (by omega), ofNat_eq (x := x) (by omega), ofNat_eq (x := y) (by omega)]
  | case3 x =>
    have hx := x.toNat_lt
    rw [octets?, if_pos (by omega), ofNat_eq (x := x) (by omega)]
  | case4 => rfl

theorem values_symbols {ns : List Nat} (h : ∀ n ∈ ns, n < 64) (position : Nat) :
    values position ((ns.map symbol).map fun c => UInt8.ofNat c.toNat) = .ok ns := by
  induction ns generalizing position with
  | nil => rfl
  | cons n ns ih =>
    rw [List.forall_mem_cons] at h
    simp only [List.map_cons, values, (symbol_spec h.1).2, ih h.2]
    rfl

theorem decode_encode (b : Bytes) : decode (Bytes.ofString (encode b)) = .ok b := by
  have hascii : ∀ c ∈ (sextets b).map symbol, c.toNat < 128 := by
    intro c hc
    obtain ⟨n, hn, rfl⟩ := List.mem_map.1 hc
    exact (symbol_spec (sextets_lt b n hn)).1
  rw [encode, Bytes.ofString_of_ascii hascii, decode, if_neg (by simpa using length_sextets b),
    values_symbols (sextets_lt b)]
  simp only [bind, Except.bind, octets?_sextets]
  rfl

theorem byte_of_value? {x : UInt8} {n : Nat} (h : value? x = some n) :
    n < 64 ∧ UInt8.ofNat (symbol n).toNat = x := by
  have hall : ∀ m < 256, ∀ k ∈ value? (UInt8.ofNat m), k < 64 ∧
      UInt8.ofNat (symbol k).toNat = UInt8.ofNat m := by
    decide +kernel
  have hx := hall x.toNat x.toNat_lt n
  rw [UInt8.ofNat_toNat] at hx
  exact hx h

theorem symbols_of_values {text : Bytes} {position : Nat} {ns : List Nat}
    (h : values position text = .ok ns) :
    (∀ n ∈ ns, n < 64) ∧ text = (ns.map symbol).map fun c => UInt8.ofNat c.toNat := by
  induction text generalizing position ns with
  | nil =>
    cases h
    simp
  | cons x text ih =>
    rw [values] at h
    cases hx : value? x with
    | none =>
      rw [hx] at h
      cases h
    | some n =>
      rw [hx] at h
      cases hrest : values (position + 1) text with
      | error e =>
        rw [hrest] at h
        cases h
      | ok ns' =>
        rw [hrest] at h
        cases h
        obtain ⟨hn, hbyte⟩ := byte_of_value? hx
        obtain ⟨hns, htext⟩ := ih hrest
        refine ⟨List.forall_mem_cons.2 ⟨hn, hns⟩, ?_⟩
        rw [List.map_cons, List.map_cons, hbyte, ← htext]

/-- No bits are lost: those that make up no byte are zero. -/
theorem sextets_of_octets? {ns : List Nat} {b : Bytes} (hns : ∀ n ∈ ns, n < 64)
    (h : octets? ns = some b) :
    sextets b = ns := by
  fun_induction octets? ns generalizing b with
  | case1 x y z w r ih =>
    obtain ⟨b', hb', hb⟩ := Option.bind_eq_some_iff.1 h
    cases hb
    simp only [List.forall_mem_cons] at hns
    obtain ⟨hx, hy, hz, hw, hr⟩ := hns
    simp only [sextets, UInt8.toNat_ofNat', ih hr hb', List.cons.injEq, and_true]
    omega
  | case2 x y z hlow =>
    cases h
    simp only [List.forall_mem_cons] at hns
    obtain ⟨hx, hy, hz, -⟩ := hns
    simp only [sextets, UInt8.toNat_ofNat', List.cons.injEq, and_true]
    omega
  | case3 => cases h
  | case4 x y hlow =>
    cases h
    simp only [List.forall_mem_cons] at hns
    obtain ⟨hx, hy, -⟩ := hns
    simp only [sextets, UInt8.toNat_ofNat', List.cons.injEq, and_true]
    omega
  | case5 => cases h
  | case6 => cases h
  | case7 =>
    cases h
    rfl

theorem decode_eq_ok_iff {text : String} {b : Bytes} :
    decode (Bytes.ofString text) = .ok b ↔ text = encode b := by
  constructor
  · intro h
    unfold decode at h
    split at h
    · cases h
    · cases hvalues : values 0 (Bytes.ofString text) with
      | error e =>
        rw [hvalues] at h
        cases h
      | ok ns =>
        cases hoctets : octets? ns with
        | none =>
          simp only [hvalues, hoctets, bind, Except.bind] at h
          cases h
        | some b' =>
          simp only [hvalues, hoctets, bind, Except.bind] at h
          cases h
          obtain ⟨hns, htext⟩ := symbols_of_values hvalues
          have hascii : ∀ c ∈ ns.map symbol, c.toNat < 128 := by
            intro c hc
            obtain ⟨n, hn, rfl⟩ := List.mem_map.1 hc
            exact (symbol_spec (hns n hn)).1
          have hsame : Bytes.ofString text = Bytes.ofString (encode b) := by
            rw [encode, sextets_of_octets? hns hoctets, Bytes.ofString_of_ascii hascii, htext]
          exact Bytes.ofString_inj.1 hsame
  · rintro rfl
    exact decode_encode b

end StubResolver.Text.Base64Url
