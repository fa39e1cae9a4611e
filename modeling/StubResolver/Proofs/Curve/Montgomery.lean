import Mathlib.AlgebraicGeometry.EllipticCurve.Affine.Point
import Mathlib.Tactic.FieldSimp
import Mathlib.Tactic.LinearCombination

set_option autoImplicit false

namespace StubResolver.Montgomery

open WeierstrassCurve.Affine (Point)

variable {F : Type*} [Field F]

def curve (a : F) : WeierstrassCurve.Affine F := ⟨0, a, 0, 1, 0⟩

variable {a : F}

theorem equation_iff {x y : F} : (curve a).Equation x y ↔ y ^ 2 = x ^ 3 + a * x ^ 2 + x := by
  rw [WeierstrassCurve.Affine.equation_iff]
  simp [curve]

theorem negY_eq (x y : F) : (curve a).negY x y = -y := by
  simp [WeierstrassCurve.Affine.negY, curve]

theorem addX_eq (x₁ x₂ l : F) : (curve a).addX x₁ x₂ l = l ^ 2 - a - x₁ - x₂ := by
  simp [WeierstrassCurve.Affine.addX, curve]

def Stands (x z : F) : (curve a).Point → Prop
  | .zero => x ≠ 0 ∧ z = 0
  | .some u _ _ => z ≠ 0 ∧ x = u * z

/-- The first coordinate; zero for the point at infinity. -/
def abscissa : (curve a).Point → F
  | .zero => 0
  | .some u _ _ => u

theorem div_of_stands {x z : F} {P : (curve a).Point} (h : Stands x z P) : x / z = abscissa P := by
  cases P with
  | zero =>
    obtain ⟨-, rfl⟩ := h
    exact div_zero x
  | some u v hP =>
    obtain ⟨hz, rfl⟩ := h
    exact mul_div_cancel_right₀ u hz

theorem ne_negY (h2 : (2 : F) ≠ 0) {u v : F} (hv : v ≠ 0) : v ≠ (curve a).negY u v := by
  rw [negY_eq]
  intro h
  have h0 : 2 * v = 0 := by linear_combination h
  exact hv ((mul_eq_zero.1 h0).resolve_left h2)

variable [DecidableEq F]

theorem slope_self (h2 : (2 : F) ≠ 0) {u v : F} (hv : v ≠ 0) :
    (curve a).slope u u v v * (2 * v) = 3 * u ^ 2 + 2 * a * u + 1 := by
  rw [WeierstrassCurve.Affine.slope_of_Y_ne rfl (ne_negY h2 hv), negY_eq]
  have h0 : v - -v = 2 * v := by ring
  rw [h0, div_mul_cancel₀ _ (mul_ne_zero h2 hv)]
  simp [curve]

theorem stands_double (h2 : (2 : F) ≠ 0) (ha : a ^ 2 ≠ 4) {x z : F} {P : (curve a).Point}
    (h : Stands x z P) :
    Stands ((x ^ 2 - z ^ 2) ^ 2) (4 * x * z * (x ^ 2 + a * x * z + z ^ 2)) (P + P) := by
  cases P with
  | zero =>
    obtain ⟨hx, rfl⟩ := h
    exact ⟨by simpa using hx, by ring⟩
  | some u v hP =>
    obtain ⟨hz, rfl⟩ := h
    have hc := equation_iff.1 hP.1
    by_cases hv : v = 0
    · subst hv
      rw [Point.add_self_of_Y_eq (by rw [negY_eq, neg_zero])]
      have hu : u ^ 2 - 1 ≠ 0 := by
        intro hu
        apply ha
        have hau : a = -2 * u := by linear_combination -hc + (-u - a) * hu
        rw [hau]
        linear_combination 4 * hu
      refine ⟨?_, by linear_combination -4 * z ^ 4 * hc⟩
      have hx : ((u * z) ^ 2 - z ^ 2) ^ 2 = ((u ^ 2 - 1) * z ^ 2) ^ 2 := by ring
      rw [hx]
      exact pow_ne_zero 2 (mul_ne_zero hu (pow_ne_zero 2 hz))
    · have hl := slope_self (a := a) (u := u) h2 hv
      rw [Point.add_self_of_Y_ne (ne_negY h2 hv)]
      refine ⟨?_, ?_⟩
      · have hd : 4 * (u * z) * z * ((u * z) ^ 2 + a * (u * z) * z + z ^ 2) =
            (2 * v * z ^ 2) ^ 2 := by
          linear_combination -4 * z ^ 4 * hc
        rw [hd]
        exact pow_ne_zero 2 (mul_ne_zero (mul_ne_zero h2 hv) (pow_ne_zero 2 hz))
      · rw [addX_eq]
        generalize (curve a).slope u u v v = l at hl ⊢
        linear_combination -z ^ 4 * (2 * l * v + (3 * u ^ 2 + 2 * a * u + 1)) * hl + 4 *
          z ^ 4 * l ^ 2 * hc

theorem slope_mul {u₁ u₂ : F} (v₁ v₂ : F) (hu : u₁ ≠ u₂) :
    (curve a).slope u₁ u₂ v₁ v₂ * (u₁ - u₂) = v₁ - v₂ := by
  rw [WeierstrassCurve.Affine.slope_of_X_ne hu, div_mul_cancel₀ _ (sub_ne_zero.2 hu)]

/-- The first coordinates of the sum and of the difference of two points, multiplied. -/
theorem addX_mul_addX {u₁ v₁ u₂ v₂ : F} (h₁ : (curve a).Equation u₁ v₁)
    (h₂ : (curve a).Equation u₂ v₂) (hu : u₁ ≠ u₂) :
    (curve a).addX u₁ u₂ ((curve a).slope u₁ u₂ v₁ v₂) *
      (curve a).addX u₁ u₂ ((curve a).slope u₁ u₂ v₁ (-v₂)) * (u₁ - u₂) ^ 2 =
        (u₁ * u₂ - 1) ^ 2 := by
  have hl := slope_mul (a := a) v₁ v₂ hu
  have hm := slope_mul (a := a) v₁ (-v₂) hu
  rw [equation_iff] at h₁ h₂
  rw [addX_eq, addX_eq]
  generalize (curve a).slope u₁ u₂ v₁ v₂ = l at hl ⊢
  generalize (curve a).slope u₁ u₂ v₁ (-v₂) = m at hm ⊢
  let e := a + u₁ + u₂
  let d := u₁ - u₂
  have hd : d ^ 2 ≠ 0 := pow_ne_zero 2 (sub_ne_zero.2 hu)
  refine mul_right_cancel₀ hd ?_
  calc (l ^ 2 - a - u₁ - u₂) * (m ^ 2 - a - u₁ - u₂) * d ^ 2 * d ^ 2
      = ((l * d) ^ 2 - e * d ^ 2) * ((m * d) ^ 2 - e * d ^ 2) := by ring
    _ = ((v₁ - v₂) ^ 2 - e * d ^ 2) * ((v₁ - -v₂) ^ 2 - e * d ^ 2) := by rw [hl, hm]
    _ = (u₁ * u₂ - 1) ^ 2 * d ^ 2 := by
      linear_combination
        (v₁ ^ 2 + (u₁ ^ 3 + a * u₁ ^ 2 + u₁) - 2 * v₂ ^ 2 - 2 * e * d ^ 2) * h₁ +
        (v₂ ^ 2 + (u₂ ^ 3 + a * u₂ ^ 2 + u₂) - 2 * (u₁ ^ 3 + a * u₁ ^ 2 + u₁) - 2 * e * d ^ 2) * h₂

omit [DecidableEq F] in
theorem some_eq_some {u v u' v' : F} {h : (curve a).Nonsingular u v}
    {h' : (curve a).Nonsingular u' v'} (heq : Point.some u v h = Point.some u' v' h') : u = u' := by
  cases heq
  rfl

/-- Two points that have one first coordinate, and a difference with another
one than zero, are opposite. -/
theorem opposite_of_eq (h2 : (2 : F) ≠ 0) (ha : a ^ 2 ≠ 4) {u u₁ v v₁ v₂ : F}
    {hD : (curve a).Nonsingular u v} {h₁ : (curve a).Nonsingular u₁ v₁}
    {h₂ : (curve a).Nonsingular u₁ v₂} (hu : u ≠ 0)
    (hd : Point.some u₁ v₂ h₂ = .some u₁ v₁ h₁ + .some u v hD) :
    Point.some u₁ v₁ h₁ + .some u₁ v₂ h₂ = 0 ∧ u₁ ^ 2 ≠ 1 := by
  have hpm : Point.some u₁ v₁ h₁ = .some u₁ v₂ h₂ ∨ Point.some u₁ v₁ h₁ = -.some u₁ v₂ h₂ :=
    Point.X_eq_iff.1 rfl
  rcases hpm with heq | hneg
  · rw [heq, left_eq_add] at hd
    exact absurd hd (Point.some_ne_zero hD)
  · refine ⟨by rw [hneg, neg_add_cancel], fun hone => hu ?_⟩
    have hdouble : Point.some u v hD = .some u₁ v₂ h₂ + .some u₁ v₂ h₂ := by
      rw [hneg] at hd
      exact (eq_neg_add_iff_add_eq.1 hd).symm
    have hs := stands_double h2 ha (P := .some u₁ v₂ h₂) (x := u₁) (z := 1) ⟨one_ne_zero, by ring⟩
    rw [← hdouble] at hs
    obtain ⟨hz, hx⟩ := hs
    have hzero : (u₁ ^ 2 - 1 ^ 2) ^ 2 = 0 := by
      rw [hone]
      ring
    exact (mul_eq_zero.1 (hx.symm.trans hzero)).resolve_right hz

theorem stands_add_of_ne (h4 : (4 : F) ≠ 0) {z z' u u₁ u₂ v v₁ v₂ : F}
    {hD : (curve a).Nonsingular u v} {h₁ : (curve a).Nonsingular u₁ v₁}
    {h₂ : (curve a).Nonsingular u₂ v₂} (hu : u ≠ 0)
    (hd : Point.some u₂ v₂ h₂ = .some u₁ v₁ h₁ + .some u v hD) (hne : u₁ ≠ u₂) (hz : z ≠ 0)
    (hz' : z' ≠ 0) :
    Stands (4 * (u₁ * z * (u₂ * z') - z * z') ^ 2) (u * (4 * (u₁ * z * z' - z * (u₂ * z')) ^ 2))
      (Point.some u₁ v₁ h₁ + .some u₂ v₂ h₂) := by
  have hdiff : -Point.some u v hD = .some u₁ v₁ h₁ + -.some u₂ v₂ h₂ := by
    rw [hd]
    abel
  rw [Point.neg_some, Point.neg_some, Point.add_of_X_ne hne] at hdiff
  have hu' := some_eq_some hdiff
  rw [negY_eq] at hu'
  have hmul := addX_mul_addX h₁.1 h₂.1 hne
  rw [← hu'] at hmul
  rw [Point.add_of_X_ne hne]
  refine ⟨?_, ?_⟩
  · have hd : u * (4 * (u₁ * z * z' - z * (u₂ * z')) ^ 2) =
      u * (4 * ((u₁ - u₂) * (z * z')) ^ 2) := by ring
    rw [hd]
    exact mul_ne_zero hu
      (mul_ne_zero h4 (pow_ne_zero 2 (mul_ne_zero (sub_ne_zero.2 hne) (mul_ne_zero hz hz'))))
  · linear_combination -4 * (z * z') ^ 2 * hmul

/-- Addition of two points with a known difference, with the first coordinates alone. -/
theorem stands_add (h2 : (2 : F) ≠ 0) (ha : a ^ 2 ≠ 4) {x z x' z' u v : F} {P Q : (curve a).Point}
    {hD : (curve a).Nonsingular u v} (hu : u ≠ 0) (hd : Q = P + .some u v hD) (hP : Stands x z P)
    (hQ : Stands x' z' Q) :
    Stands (4 * (x * x' - z * z') ^ 2) (u * (4 * (x * z' - z * x') ^ 2)) (P + Q) := by
  have h4 : (4 : F) ≠ 0 := by
    have h4 : (4 : F) = 2 * 2 := by norm_num
    rw [h4]
    exact mul_ne_zero h2 h2
  cases P with
  | zero =>
    obtain ⟨hx, rfl⟩ := hP
    rw [← Point.zero_def, zero_add] at hd ⊢
    subst hd
    obtain ⟨hz', rfl⟩ := hQ
    refine ⟨?_, by ring⟩
    have hz : u * (4 * (x * z' - 0 * (u * z')) ^ 2) = u * (4 * (x * z') ^ 2) := by ring
    rw [hz]
    exact mul_ne_zero hu (mul_ne_zero h4 (pow_ne_zero 2 (mul_ne_zero hx hz')))
  | some u₁ v₁ h₁ =>
    obtain ⟨hz, rfl⟩ := hP
    cases Q with
    | zero =>
      obtain ⟨hx', rfl⟩ := hQ
      rw [← Point.zero_def] at hd ⊢
      rw [add_zero]
      have hneg := eq_neg_of_add_eq_zero_left hd.symm
      rw [Point.neg_some] at hneg
      obtain rfl := some_eq_some hneg
      refine ⟨?_, by ring⟩
      have hz' : u₁ * (4 * (u₁ * z * 0 - z * x') ^ 2) = u₁ * (4 * (z * x') ^ 2) := by ring
      rw [hz']
      exact mul_ne_zero hu (mul_ne_zero h4 (pow_ne_zero 2 (mul_ne_zero hz hx')))
    | some u₂ v₂ h₂ =>
      obtain ⟨hz', rfl⟩ := hQ
      by_cases hne : u₁ = u₂
      · subst hne
        obtain ⟨hsum, hone⟩ := opposite_of_eq h2 ha hu hd
        rw [hsum]
        refine ⟨?_, by ring⟩
        have hx : 4 * (u₁ * z * (u₁ * z') - z * z') ^ 2 =
          4 * ((u₁ ^ 2 - 1) * (z * z')) ^ 2 := by ring
        rw [hx]
        exact mul_ne_zero h4 (pow_ne_zero 2 (mul_ne_zero (sub_ne_zero.2 hone) (mul_ne_zero hz hz')))
      · exact stands_add_of_ne h4 hu hd hne hz hz'

end StubResolver.Montgomery
