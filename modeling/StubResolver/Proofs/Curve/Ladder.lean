import StubResolver.Proofs.Bytes
import StubResolver.Proofs.Curve.Field
import StubResolver.Proofs.Curve.Montgomery

set_option autoImplicit false

namespace StubResolver.Curve25519

open Montgomery (Stands abscissa curve)
open WeierstrassCurve.Affine (Point)

def a : ZMod p := 486662

theorem a_sq_ne_four : a ^ 2 ≠ 4 := by
  intro h
  have h0 : ((486662 ^ 2 - 4 : ℕ) : ZMod p) = 0 := by
    norm_num [a] at h ⊢
    linear_combination h
  exact natCast_ne_zero (by norm_num [p]) h0

def baseY : ℕ := 14781619447589544791020593568409986887264606134616475288964881837755586237401

theorem base_equation : (curve a).Equation 9 (baseY : ZMod p) := by
  have h : ((baseY ^ 2 : ℕ) : ZMod p) = ((9 ^ 3 + 486662 * 9 ^ 2 + 9 : ℕ) : ZMod p) :=
    (ZMod.natCast_eq_natCast_iff' _ _ _).2 (by norm_num [p, baseY])
  rw [Montgomery.equation_iff, a]
  push_cast at h
  exact h

theorem base_nonsingular : (curve a).Nonsingular 9 (baseY : ZMod p) := by
  rw [WeierstrassCurve.Affine.nonsingular_iff]
  refine ⟨base_equation, .inr ?_⟩
  refine Montgomery.ne_negY two_ne_zero (natCast_ne_zero (by norm_num [p, baseY]))

def base : (curve a).Point := .some 9 (baseY : ZMod p) base_nonsingular

theorem stands_step {u : ℕ} {v : ZMod p} {hD : (curve a).Nonsingular (u : ZMod p) v}
    (hu : (u : ZMod p) ≠ 0) {s : Pair} {P Q : (curve a).Point}
    (hd : Q = P + .some (u : ZMod p) v hD) (hP : Stands (s.x2 : ZMod p) s.z2 P)
    (hQ : Stands (s.x3 : ZMod p) s.z3 Q) :
    Stands ((step u s).x2 : ZMod p) (step u s).z2 (P + P) ∧
      Stands ((step u s).x3 : ZMod p) (step u s).z3 (P + Q) := by
  constructor
  · have h := Montgomery.stands_double two_ne_zero a_sq_ne_four hP
    convert h using 1
    · simp only [step, cast_mul, cast_add, cast_sub]
      ring
    · simp only [step, cast_mul, cast_add, cast_sub, a]
      push_cast
      ring
  · have h := Montgomery.stands_add two_ne_zero a_sq_ne_four hu hd hP hQ
    convert h using 1
    · simp only [step, cast_mul, cast_add, cast_sub]
      ring
    · simp only [step, cast_mul, cast_add, cast_sub]
      ring

def Climbing (D : (curve a).Point) (k : ℕ) (s : Pair) : Prop :=
  Stands (s.x2 : ZMod p) s.z2 (k • D) ∧ Stands (s.x3 : ZMod p) s.z3 ((k + 1) • D)

theorem climbing_step {u : ℕ} {v : ZMod p} {hD : (curve a).Nonsingular (u : ZMod p) v}
    (hu : (u : ZMod p) ≠ 0) (k : ℕ) (s : Pair) (b : Bool)
    (hs : Climbing (.some (u : ZMod p) v hD) k s) :
    Climbing (.some (u : ZMod p) v hD) (2 * k + b.toNat)
      (if b then (step u s.swap).swap else step u s) := by
  obtain ⟨hP, hQ⟩ := hs
  cases b with
  | false =>
    have h := stands_step hu (succ_nsmul _ _) hP hQ
    have hsum : ∀ D : (curve a).Point, (2 * k + 1) • D = k • D + (k + 1) • D := fun D => by
      rw [← add_nsmul]
      congr 1
      omega
    simp only [Bool.toNat_false, Nat.add_zero, Bool.false_eq_true, ↓reduceIte, Climbing, hsum]
    rw [two_mul, add_nsmul]
    exact h
  | true =>
    -- The difference of the swapped points is the opposite one, with the same first coordinate.
    have hneg : k • Point.some (u : ZMod p) v hD =
        (k + 1) • Point.some (u : ZMod p) v hD + -Point.some (u : ZMod p) v hD := by
      rw [succ_nsmul, add_neg_cancel_right]
    rw [Point.neg_some] at hneg
    have h := stands_step hu hneg (s := s.swap) hQ hP
    have hsum : ∀ D : (curve a).Point, (2 * k + 1) • D = (k + 1) • D + k • D := fun D => by
      rw [← add_nsmul]
      congr 1
      omega
    have hdouble : ∀ D : (curve a).Point, (2 * k + 1 + 1) • D = (k + 1) • D + (k + 1) • D := by
      intro D
      rw [← add_nsmul]
      congr 1
      omega
    simp only [Bool.toNat_true, ↓reduceIte, Climbing, hsum, hdouble]
    exact ⟨h.2, h.1⟩

/-- Both fractions have a zero in them. -/
def Stuck (s : Pair) : Prop := (s.x2 * s.z2 : ZMod p) = 0 ∧ (s.x3 * s.z3 : ZMod p) = 0

theorem stuck_step {u : ℕ} (hu : (u : ZMod p) = 0) (s : Pair) (b : Bool) (hs : Stuck s) :
    Stuck (if b then (step u s.swap).swap else step u s) := by
  have hstep : ∀ s : Pair, Stuck s → Stuck (step u s) := by
    rintro ⟨x, z, x', z'⟩ ⟨h, -⟩
    simp only [Stuck, step, cast_mul, cast_add, cast_sub, hu]
    refine ⟨?_, by ring⟩
    push_cast
    linear_combination 4 * ((x : ZMod p) ^ 2 - z ^ 2) ^ 2 * (x ^ 2 + 486662 * x * z + z ^ 2) * h
  have hswap : ∀ s : Pair, Stuck s → Stuck s.swap := fun s h => h.symm
  cases b with
  | false => exact hstep s hs
  | true => exact hswap _ (hstep _ (hswap s hs))

/-- The points with first coordinate zero have no multiple with another one. -/
theorem abscissa_nsmul_of_zero {P : (curve a).Point} (hP : abscissa P = 0) (n : ℕ) :
    abscissa (n • P) = 0 := by
  cases P with
  | zero =>
    rw [← Point.zero_def, nsmul_zero]
    rfl
  | some u v h =>
    obtain rfl : u = 0 := hP
    have hv : v = 0 := by
      have hc := Montgomery.equation_iff.1 h.1
      have hv : v ^ 2 = 0 := by linear_combination hc
      exact pow_eq_zero_iff (by decide) |>.1 hv
    have h2 : Point.some 0 v h + .some 0 v h = 0 :=
      Point.add_self_of_Y_eq (by rw [Montgomery.negY_eq, hv, neg_zero])
    have hcases : n • Point.some 0 v h = 0 ∨ n • Point.some 0 v h = .some 0 v h := by
      induction n with
      | zero => exact .inl (zero_nsmul _)
      | succ n ih =>
        rw [succ_nsmul]
        rcases ih with ih | ih
        · exact .inr (by rw [ih, zero_add])
        · exact .inl (by rw [ih, h2])
    rcases hcases with hn | hn
    · rw [hn]
      rfl
    · rw [hn]
      rfl

theorem ladder_lt (n u : ℕ) : ladder n u < p := Nat.mod_lt _ prime_p.pos

/-- The ladder multiplies a point, given by its first coordinate. -/
theorem cast_ladder {n u : ℕ} (hn : n < 2 ^ 256) {P : (curve a).Point} (hP : abscissa P = u) :
    (ladder n u : ZMod p) = abscissa (n • P) := by
  unfold ladder
  dsimp only
  rw [cast_mul, cast_inv, ← div_eq_mul_inv]
  by_cases hu : (u : ZMod p) = 0
  · have h := foldl_bits (fun _ s => Stuck s) (fun _ => stuck_step hu) 256 n 0 ⟨1, 0, u % p, 1⟩
      (by simp [Stuck, hu])
    rw [abscissa_nsmul_of_zero (hP.trans hu)]
    rcases mul_eq_zero.1 h.1 with hx | hz
    · rw [hx, zero_div]
    · rw [hz, div_zero]
  · cases P with
    | zero => exact absurd hP.symm hu
    | some u' v hD =>
      obtain rfl : u' = u := hP
      have h :=
        foldl_bits (Climbing (.some (u : ZMod p) v hD)) (climbing_step hu) 256 n 0 ⟨1, 0, u % p, 1⟩
        ⟨by simp [Stands], by simp [Stands]⟩
      rw [zero_mul, zero_add, Nat.mod_eq_of_lt hn] at h
      exact Montgomery.div_of_stands h.1

theorem secretScalar_lt (sk : Bytes) : secretScalar sk < 2 ^ 256 := by
  have h : secretScalar sk < order := Nat.mod_lt _ (by norm_num [order])
  have horder : order < 2 ^ 256 := by norm_num [order]
  omega

theorem toNatLE_publicKey (sk : Bytes) :
    Bytes.toNatLE (publicKey sk) % Nat.pow 2 255 % p = ladder (secretScalar sk) 9 := by
  have hp : p < Nat.pow 2 255 := by norm_num [p]
  have hbytes : Nat.pow 2 255 < 256 ^ 32 := by norm_num
  have h := ladder_lt (secretScalar sk) 9
  rw [publicKey, Bytes.toNatLE_ofNatLE, Nat.mod_eq_of_lt ((h.trans hp).trans hbytes),
    Nat.mod_eq_of_lt (h.trans hp), Nat.mod_eq_of_lt h]

theorem cast_ladder_ladder {m n : ℕ} (hm : m < 2 ^ 256) (hn : n < 2 ^ 256) :
    (ladder m (ladder n 9) : ZMod p) = abscissa ((m * n) • base) := by
  rw [mul_nsmul, nsmul_left_comm]
  exact cast_ladder hm (cast_ladder hn rfl).symm

/-- Each of two parties gets the same from its own secret and the other's public key. -/
theorem agree_comm (sk sk' : Bytes) : agree sk (publicKey sk') = agree sk' (publicKey sk) := by
  have h : (ladder (secretScalar sk) (ladder (secretScalar sk') 9) : ZMod p) =
      ladder (secretScalar sk') (ladder (secretScalar sk) 9) := by
    rw [cast_ladder_ladder (secretScalar_lt sk) (secretScalar_lt sk'),
      cast_ladder_ladder (secretScalar_lt sk') (secretScalar_lt sk), Nat.mul_comm]
  rw [ZMod.natCast_eq_natCast_iff', Nat.mod_eq_of_lt (ladder_lt _ _),
    Nat.mod_eq_of_lt (ladder_lt _ _)] at h
  rw [agree, agree, toNatLE_publicKey, toNatLE_publicKey, h]

end StubResolver.Curve25519
