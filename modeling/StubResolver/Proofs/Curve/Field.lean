import Mathlib.FieldTheory.Finite.Basic
import Mathlib.Tactic.Ring
import StubResolver.Proofs.Curve.FieldPrime

set_option autoImplicit false

namespace StubResolver.Curve25519

theorem cast_add (a b : ℕ) : (add a b : ZMod p) = a + b := by
  rw [add, ZMod.natCast_mod, Nat.cast_add]

theorem cast_mul (a b : ℕ) : (mul a b : ZMod p) = a * b := by
  rw [mul, ZMod.natCast_mod, Nat.cast_mul]

theorem cast_sub (a b : ℕ) : (sub a b : ZMod p) = a - b := by
  have hb : b % p ≤ p := (Nat.mod_lt b prime_p.pos).le
  rw [sub, ZMod.natCast_mod, Nat.cast_add, Nat.cast_sub hb, ZMod.natCast_self, ZMod.natCast_mod]
  ring

theorem mul_lt (a b : ℕ) : mul a b < p := Nat.mod_lt _ prime_p.pos

theorem sub_lt (a b : ℕ) : sub a b < p := Nat.mod_lt _ prime_p.pos

theorem eq_val {n : ℕ} {v : ZMod p} (hn : n < p) (h : (n : ZMod p) = v) : n = v.val := by
  rw [← h, ZMod.val_natCast_of_lt hn]

theorem bits_succ (width n : ℕ) : bits (width + 1) n = n.testBit width :: bits width n := by
  simp [bits, List.range_succ]

/-- A loop over the bits of a number keeps a relation to the number that the bits so far make up. -/
theorem foldl_bits {S : Type} (R : ℕ → S → Prop) {f : S → Bool → S}
    (h : ∀ k s b, R k s → R (2 * k + b.toNat) (f s b)) (width n k : ℕ) (s : S) (hs : R k s) :
    R (k * 2 ^ width + n % 2 ^ width) ((bits width n).foldl f s) := by
  induction width generalizing k s with
  | zero => simpa [bits, Nat.mod_one] using hs
  | succ width ih =>
    rw [bits_succ, List.foldl_cons]
    have hstep := ih (2 * k + (n.testBit width).toNat) (f s (n.testBit width)) (h k s _ hs)
    have hn : n % 2 ^ (width + 1) = n % 2 ^ width + 2 ^ width * (n.testBit width).toNat := by
      rw [pow_succ, Nat.mod_mul, Nat.toNat_testBit]
    have hk : k * 2 ^ (width + 1) + n % 2 ^ (width + 1) =
        (2 * k + (n.testBit width).toNat) * 2 ^ width + n % 2 ^ width := by
      rw [hn]
      ring
    rwa [hk]

theorem cast_pow (a : ℕ) {e : ℕ} (he : e < 2 ^ 256) : (pow a e : ZMod p) = a ^ e := by
  have hstep : ∀ (k x : ℕ) (b : Bool), (x : ZMod p) = (a : ZMod p) ^ k →
      ((if b then mul (mul x x) a else mul x x : ℕ) : ZMod p) =
        (a : ZMod p) ^ (2 * k + b.toNat) := by
    intro k x b hx
    cases b
    · simp only [Bool.false_eq_true, ↓reduceIte, cast_mul, hx, Bool.toNat_false, Nat.add_zero]
      ring
    · simp only [↓reduceIte, cast_mul, hx, Bool.toNat_true]
      ring
  have h := foldl_bits (fun k (x : ℕ) => (x : ZMod p) = (a : ZMod p) ^ k) hstep 256 e 0 1 (by simp)
  rwa [zero_mul, zero_add, Nat.mod_eq_of_lt he] at h

theorem cast_inv (a : ℕ) : (inv a : ZMod p) = (a : ZMod p)⁻¹ := by
  have hp : p - 2 < 2 ^ 256 := by norm_num [p]
  rw [inv, cast_pow a hp]
  by_cases ha : (a : ZMod p) = 0
  · rw [ha, inv_zero, zero_pow (by norm_num [p])]
  · refine eq_inv_of_mul_eq_one_left ?_
    rw [← pow_succ]
    have hsucc : p - 2 + 1 = p - 1 := by norm_num [p]
    rw [hsucc, ZMod.pow_card_sub_one_eq_one ha]

theorem natCast_ne_zero {n : ℕ} (h : n % p ≠ 0) : (n : ZMod p) ≠ 0 := by
  rw [Ne, ZMod.natCast_eq_zero_iff]
  exact fun hdvd => h (Nat.mod_eq_zero_of_dvd hdvd)

theorem two_ne_zero : (2 : ZMod p) ≠ 0 := natCast_ne_zero (n := 2) (by norm_num [p])

end StubResolver.Curve25519
