import Mathlib.Algebra.Field.Basic
import Mathlib.Algebra.Group.Even
import Mathlib.Tactic.FieldSimp
import Mathlib.Tactic.LinearCombination
import Mathlib.Tactic.Ring

/-!
The group of a twisted Edwards curve. Where minus one is a square and the parameter of
the curve is none, the formula for the sum of two points never divides by zero, so
that it holds without exceptions.
-/

set_option autoImplicit false

namespace StubResolver.Edwards

variable {F : Type*} [Field F]

class Complete (d : F) : Prop where
  two_ne_zero : (2 : F) ≠ 0
  isSquare_neg_one : IsSquare (-1 : F)
  not_isSquare : ¬ IsSquare d

@[ext] structure Point (d : F) where
  x : F
  y : F
  equation : y ^ 2 = 1 + x ^ 2 + d * x ^ 2 * y ^ 2

variable {d : F}

def cross (P Q : Point d) : F := d * P.x * Q.x * P.y * Q.y

theorem cross_comm (P Q : Point d) : cross P Q = cross Q P := by
  rw [cross, cross]
  ring

theorem cross_sq_ne_one [Complete d] (P Q : Point d) : cross P Q ^ 2 ≠ 1 := by
  intro h
  obtain ⟨i, hi⟩ := Complete.isSquare_neg_one d
  have hP := P.equation
  have hQ := Q.equation
  have hne : cross P Q ≠ 0 := by
    intro h0
    simp [h0] at h
  simp only [cross, mul_ne_zero_iff] at hne
  obtain ⟨⟨⟨⟨-, hx⟩, hx'⟩, hy⟩, -⟩ := hne
  -- Unless `Q` is on the line `y + j x = 0`, the parameter is the square of a quotient.
  have hline : ∀ j : F, j ^ 2 = -1 → Q.y + j * Q.x = 0 := by
    intro j hj
    by_contra h0
    refine Complete.not_isSquare (d := d)
      ⟨(P.y + cross P Q * j * P.x) / (P.x * P.y * (Q.y + j * Q.x)), ?_⟩
    have hsquare : (P.y + cross P Q * j * P.x) ^ 2 = d * (P.x * P.y * (Q.y + j * Q.x)) ^ 2 := by
      rw [cross] at h ⊢
      linear_combination hP - (1 + P.x ^ 2) * h - d * P.x ^ 2 * P.y ^ 2 * hQ +
        ((d * P.x * Q.x * P.y * Q.y) ^ 2 * P.x ^ 2 - d * P.x ^ 2 * P.y ^ 2 * Q.x ^ 2) * hj
    have hden : P.x * P.y * (Q.y + j * Q.x) ≠ 0 := mul_ne_zero (mul_ne_zero hx hy) h0
    rw [div_mul_div_comm, ← sq, ← sq, hsquare, mul_div_cancel_right₀ _ (pow_ne_zero 2 hden)]
  have hplus := hline i (by rw [sq, ← hi])
  have hminus := hline (-i) (by rw [neg_sq, sq, ← hi])
  have hix : 2 * (i * Q.x) = 0 := by linear_combination hplus - hminus
  have hi0 : i ≠ 0 := by
    rintro rfl
    simp at hi
  exact mul_ne_zero hi0 hx' ((mul_eq_zero.1 hix).resolve_left (Complete.two_ne_zero d))

variable [Complete d]

theorem one_add_cross_ne_zero (P Q : Point d) : 1 + cross P Q ≠ 0 := by
  intro h
  apply cross_sq_ne_one P Q
  linear_combination (cross P Q - 1) * h

theorem one_sub_cross_ne_zero (P Q : Point d) : 1 - cross P Q ≠ 0 := by
  intro h
  apply cross_sq_ne_one P Q
  linear_combination (-cross P Q - 1) * h

theorem sum_equation (P Q : Point d) :
    ((P.y * Q.y + P.x * Q.x) / (1 - cross P Q)) ^ 2 =
      1 + ((P.x * Q.y + P.y * Q.x) / (1 + cross P Q)) ^ 2 +
        d * ((P.x * Q.y + P.y * Q.x) / (1 + cross P Q)) ^ 2 *
          ((P.y * Q.y + P.x * Q.x) / (1 - cross P Q)) ^ 2 := by
  have hplus := one_add_cross_ne_zero P Q
  have hminus := one_sub_cross_ne_zero P Q
  have hP := P.equation
  have hQ := Q.equation
  field_simp
  rw [cross]
  grind

instance : Add (Point d) where
  add P Q := ⟨(P.x * Q.y + P.y * Q.x) / (1 + cross P Q), (P.y * Q.y + P.x * Q.x) / (1 - cross P Q),
    sum_equation P Q⟩

theorem add_x (P Q : Point d) : (P + Q).x * (1 + cross P Q) = P.x * Q.y + P.y * Q.x :=
  div_mul_cancel₀ _ (one_add_cross_ne_zero P Q)

theorem add_y (P Q : Point d) : (P + Q).y * (1 - cross P Q) = P.y * Q.y + P.x * Q.x :=
  div_mul_cancel₀ _ (one_sub_cross_ne_zero P Q)

theorem eq_add_of_mul {P Q R : Point d} (hx : R.x * (1 + cross P Q) = P.x * Q.y + P.y * Q.x)
    (hy : R.y * (1 - cross P Q) = P.y * Q.y + P.x * Q.x) : R = P + Q :=
  Point.ext (eq_div_of_mul_eq (one_add_cross_ne_zero P Q) hx)
    (eq_div_of_mul_eq (one_sub_cross_ne_zero P Q) hy)

instance : Zero (Point d) where
  zero := ⟨0, 1, by ring⟩

instance : Neg (Point d) where
  neg P := ⟨-P.x, P.y, by linear_combination P.equation⟩

omit [Complete d] in
@[simp] theorem zero_x : (0 : Point d).x = 0 := rfl

omit [Complete d] in
@[simp] theorem zero_y : (0 : Point d).y = 1 := rfl

omit [Complete d] in
@[simp] theorem neg_x (P : Point d) : (-P).x = -P.x := rfl

omit [Complete d] in
@[simp] theorem neg_y (P : Point d) : (-P).y = P.y := rfl

theorem add_comm (P Q : Point d) : P + Q = Q + P := by
  apply eq_add_of_mul
  · rw [cross_comm, add_x]
    ring
  · rw [cross_comm, add_y]
    ring

theorem zero_add (P : Point d) : 0 + P = P := by
  symm
  apply eq_add_of_mul <;> simp [cross]

theorem neg_add_cancel (P : Point d) : -P + P = 0 := by
  symm
  apply eq_add_of_mul
  · simp
    ring
  · have hP := P.equation
    simp [cross]
    linear_combination -hP

omit [Complete d] in
theorem triple_identity (P Q R : Point d) :
    (P.x * (R.y * Q.y + R.x * Q.x) * (1 + cross R Q) + P.y * (R.x * Q.y + R.y * Q.x) *
        (1 - cross R Q)) *
        ((1 + cross P Q) * (1 - cross P Q) +
          d * (P.x * Q.y + P.y * Q.x) * R.x * (P.y * Q.y + P.x * Q.x) * R.y) =
      (R.x * (P.y * Q.y + P.x * Q.x) * (1 + cross P Q) + R.y * (P.x * Q.y + P.y * Q.x) *
        (1 - cross P Q)) *
        ((1 + cross R Q) * (1 - cross R Q) +
          d * (R.x * Q.y + R.y * Q.x) * P.x * (R.y * Q.y + R.x * Q.x) * P.y) := by
  simp only [cross]
  linear_combination
    -d * Q.x * Q.y * R.x * R.y * (P.x * (R.y * Q.y + R.x * Q.x) * (1 + d * R.x * Q.x * R.y * Q.y) -
        P.y * (R.x * Q.y + R.y * Q.x) * (1 - d * R.x * Q.x * R.y * Q.y)) * P.equation +
      d ^ 2 * P.x * P.y * Q.x * Q.y * R.x * R.y *
        (P.x * P.y * (P.x * (R.y * Q.y + R.x * Q.x) - P.y * (R.x * Q.y + R.y * Q.x)) -
          R.x * R.y * (R.x * (P.y * Q.y + P.x * Q.x) - R.y * (P.x * Q.y + P.y * Q.x))) *
            Q.equation +
      d * Q.x * Q.y * P.x * P.y * (R.x * (P.y * Q.y + P.x * Q.x) * (1 + d * P.x * Q.x * P.y * Q.y) -
        R.y * (P.x * Q.y + P.y * Q.x) * (1 - d * P.x * Q.x * P.y * Q.y)) * R.equation

theorem add_assoc_x (P Q R : Point d) : (P + Q + R).x = (P + (Q + R)).x := by
  rw [add_comm P (Q + R), add_comm Q R]
  have hne := mul_ne_zero (mul_ne_zero (one_add_cross_ne_zero P Q) (one_sub_cross_ne_zero P Q))
    (mul_ne_zero (one_add_cross_ne_zero R Q) (one_sub_cross_ne_zero R Q))
  have hsum : ∀ A B : Point d, (A + B).x = (A.x * B.y + A.y * B.x) / (1 + cross A B) :=
    fun _ _ => rfl
  rw [hsum, hsum (R + Q), div_eq_div_iff (one_add_cross_ne_zero _ _) (one_add_cross_ne_zero _ _)]
  refine mul_left_cancel₀ hne ?_
  have h := triple_identity P Q R
  rw [← add_x P Q, ← add_y P Q, ← add_x R Q, ← add_y R Q] at h
  have hPQ : cross (P + Q) R = d * (P + Q).x * R.x * (P + Q).y * R.y := rfl
  have hRQ : cross (R + Q) P = d * (R + Q).x * P.x * (R + Q).y * P.y := rfl
  rw [hPQ, hRQ]
  linear_combination -h

def turn (i : F) (hi : -1 = i * i) (P : Point d) : Point d :=
  ⟨i * P.y, i * P.x, by
    linear_combination (P.y ^ 2 - P.x ^ 2 + d * P.x ^ 2 * P.y ^ 2 * (i ^ 2 - 1)) * hi + P.equation⟩

theorem turn_add {i : F} (hi : -1 = i * i) (P Q : Point d) :
    turn i hi P + Q = turn i hi (P + Q) := by
  symm
  have hcross : cross (turn i hi P) Q = -cross P Q := by
    simp only [cross, turn]
    linear_combination -(d * P.x * Q.x * P.y * Q.y) * hi
  have hx := add_x P Q
  have hy := add_y P Q
  apply eq_add_of_mul
  · rw [hcross]
    simp only [turn]
    linear_combination i * hy
  · rw [hcross]
    simp only [turn]
    linear_combination i * hx

theorem add_assoc (P Q R : Point d) : P + Q + R = P + (Q + R) := by
  obtain ⟨i, hi⟩ := Complete.isSquare_neg_one d
  have hi0 : i ≠ 0 := by
    rintro rfl
    simp at hi
  -- The second coordinates are the first ones of the turned points.
  refine Point.ext (add_assoc_x P Q R) (mul_left_cancel₀ hi0 ?_)
  have h := add_assoc_x (turn i hi P) Q R
  rw [turn_add, turn_add, turn_add] at h
  exact h

instance : AddCommGroup (Point d) where
  add_assoc := add_assoc
  zero_add := zero_add
  add_zero P := (add_comm P 0).trans (zero_add P)
  neg_add_cancel := neg_add_cancel
  add_comm := add_comm
  nsmul := nsmulRec
  zsmul := zsmulRec

end StubResolver.Edwards
