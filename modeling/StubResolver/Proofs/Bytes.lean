import Mathlib.Algebra.Ring.Nat
import Mathlib.Data.List.Induction
import StubResolver.Bytes

set_option autoImplicit false

namespace StubResolver.Bytes

theorem toNatLE_ofNatLE (w n : Nat) : toNatLE (ofNatLE w n) = n % 256 ^ w := by
  induction w generalizing n with
  | zero => simp [ofNatLE, toNatLE, Nat.mod_one]
  | succ w ih =>
    rw [ofNatLE, toNatLE, ih, Nat.pow_succ', Nat.mod_mul, UInt8.toNat_ofNat']

theorem toNatLE_lt (b : Bytes) : toNatLE b < 256 ^ b.length := by
  induction b with
  | nil => decide
  | cons x b ih =>
    have hx := x.toNat_lt
    rw [toNatLE, List.length_cons, Nat.pow_succ']
    omega

theorem ofNatLE_toNatLE (b : Bytes) : ofNatLE b.length (toNatLE b) = b := by
  induction b with
  | nil => rfl
  | cons x b ih =>
    have hx := x.toNat_lt
    have hfirst : UInt8.ofNat (x.toNat + 256 * toNatLE b) = x := by
      rw [← UInt8.toNat_inj, UInt8.toNat_ofNat']
      omega
    have hrest : (x.toNat + 256 * toNatLE b) / 256 = toNatLE b := by omega
    rw [toNatLE, List.length_cons, ofNatLE, hfirst, hrest, ih]

theorem toNatBE_append (b : Bytes) (x : UInt8) :
    toNatBE (b ++ [x]) = 256 * toNatBE b + x.toNat := by
  simp [toNatBE]

theorem toNatBE_ofNatBE (w n : Nat) : toNatBE (ofNatBE w n) = n % 256 ^ w := by
  induction w generalizing n with
  | zero => simp [ofNatBE, toNatBE, Nat.mod_one]
  | succ w ih =>
    rw [ofNatBE, toNatBE_append, ih, Nat.pow_succ', Nat.mod_mul, UInt8.toNat_ofNat']
    omega

@[simp] theorem length_ofUInt16 (n : UInt16) : (ofUInt16 n).length = 2 := length_ofNatBE 2 _

@[simp] theorem length_ofUInt32 (n : UInt32) : (ofUInt32 n).length = 4 := length_ofNatBE 4 _

theorem toUInt16_ofUInt16 (n : UInt16) : toUInt16 (ofUInt16 n) = n := by
  have h : n.toNat < 65536 := n.toNat_lt
  rw [toUInt16, ofUInt16, toNatBE_ofNatBE, Nat.mod_eq_of_lt (by omega), UInt16.ofNat_toNat]

theorem toUInt32_ofUInt32 (n : UInt32) : toUInt32 (ofUInt32 n) = n := by
  have h : n.toNat < 4294967296 := n.toNat_lt
  rw [toUInt32, ofUInt32, toNatBE_ofNatBE, Nat.mod_eq_of_lt (by omega), UInt32.ofNat_toNat]

theorem toNatBE_lt (b : Bytes) : toNatBE b < 256 ^ b.length := by
  induction b using List.reverseRecOn with
  | nil => decide
  | append_singleton b x ih =>
    have hx := x.toNat_lt
    rw [toNatBE_append, List.length_append, List.length_singleton, Nat.pow_succ]
    omega

theorem ofNatBE_toNatBE (b : Bytes) : ofNatBE b.length (toNatBE b) = b := by
  induction b using List.reverseRecOn with
  | nil => rfl
  | append_singleton b x ih =>
    have hx := x.toNat_lt
    have hfront : (256 * toNatBE b + x.toNat) / 256 = toNatBE b := by omega
    have hlast : UInt8.ofNat (256 * toNatBE b + x.toNat) = x := by
      rw [← UInt8.toNat_inj, UInt8.toNat_ofNat']
      omega
    rw [toNatBE_append, List.length_append, List.length_singleton, ofNatBE, hfront, hlast, ih]

theorem ofUInt16_toUInt16 {b : Bytes} (h : b.length = 2) : ofUInt16 (toUInt16 b) = b := by
  have hlt := toNatBE_lt b
  rw [h] at hlt
  have hvalue : (UInt16.ofNat (toNatBE b)).toNat = toNatBE b := UInt16.toNat_ofNat_of_lt hlt
  rw [ofUInt16, toUInt16, hvalue, ← h, ofNatBE_toNatBE]

theorem ofUInt32_toUInt32 {b : Bytes} (h : b.length = 4) : ofUInt32 (toUInt32 b) = b := by
  have hlt := toNatBE_lt b
  rw [h] at hlt
  have hvalue : (UInt32.ofNat (toNatBE b)).toNat = toNatBE b := UInt32.toNat_ofNat_of_lt hlt
  rw [ofUInt32, toUInt32, hvalue, ← h, ofNatBE_toNatBE]

theorem drop_field {b x rest : Bytes} {n k : Nat} (h : b.drop n = x ++ rest) (hx : x.length = k) :
    b.drop (n + k) = rest := by
  rw [← List.drop_drop, h, List.drop_left' hx]

theorem take_field {b x rest : Bytes} {n k : Nat} (h : b.drop n = x ++ rest) (hx : x.length = k) :
    (b.drop n).take k = x := by
  rw [h, List.take_left' hx]

@[simp] theorem length_xor (a b : Bytes) : (xor a b).length = min a.length b.length := by
  simp [xor]

theorem xor_xor_cancel {a b : Bytes} (h : a.length ≤ b.length) : xor (xor a b) b = a := by
  induction a generalizing b with
  | nil => simp [xor]
  | cons x a ih =>
    cases b with
    | nil => simp at h
    | cons y b =>
      have hab : a.length ≤ b.length := by simpa using h
      have hxy : x ^^^ y ^^^ y = x := by rw [UInt8.xor_assoc, UInt8.xor_self, UInt8.xor_zero]
      have hrest := ih hab
      simp only [xor, List.zipWith_cons_cons] at hrest ⊢
      rw [hxy, hrest]

end StubResolver.Bytes
