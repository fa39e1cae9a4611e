import Mathlib.NumberTheory.LegendreSymbol.Basic
import StubResolver.Crypto.Ed25519
import StubResolver.Proofs.Bytes
import StubResolver.Proofs.Curve.Edwards
import StubResolver.Proofs.Curve.Field

set_option autoImplicit false

namespace StubResolver.Ed25519

open Curve25519 hiding two_ne_zero

theorem root_mul_root : mul rootOfMinusOne rootOfMinusOne = p - 1 := by decide +kernel

theorem euler_d : pow d (p / 2) = p - 1 := by decide +kernel

theorem cast_p_sub_one : ((p - 1 : ℕ) : ZMod p) = -1 := by
  rw [Nat.cast_sub prime_p.one_le, ZMod.natCast_self, Nat.cast_one, zero_sub]

theorem root_sq : (rootOfMinusOne : ZMod p) ^ 2 = -1 := by
  rw [sq, ← cast_mul, root_mul_root, cast_p_sub_one]

theorem d_ne_zero : (d : ZMod p) ≠ 0 := natCast_ne_zero (by decide +kernel)

theorem d_not_isSquare : ¬ IsSquare (d : ZMod p) := by
  have hp : p / 2 < 2 ^ 256 := by norm_num [p]
  rw [ZMod.euler_criterion p d_ne_zero, ← cast_pow d hp, euler_d, cast_p_sub_one]
  intro h
  apply Curve25519.two_ne_zero
  linear_combination -h

instance : Edwards.Complete (d : ZMod p) :=
  ⟨Curve25519.two_ne_zero, ⟨rootOfMinusOne, by rw [← sq, root_sq]⟩, d_not_isSquare⟩

abbrev Curve := Edwards.Point (d : ZMod p)

structure Stands (a : Point) (P : Curve) : Prop where
  z_ne_zero : (a.z : ZMod p) ≠ 0
  x : (a.x : ZMod p) = P.x * a.z
  y : (a.y : ZMod p) = P.y * a.z
  t : (a.t : ZMod p) = P.x * P.y * a.z

theorem stands_zero : Stands Point.zero 0 := by
  constructor <;> simp [Point.zero]

theorem stands_add {a b : Point} {P Q : Curve} (ha : Stands a P) (hb : Stands b Q) :
    Stands (a.add b) (P + Q) := by
  let k : ZMod p := 2 * (a.z * b.z)
  have hk : k ≠ 0 := mul_ne_zero Curve25519.two_ne_zero (mul_ne_zero ha.z_ne_zero hb.z_ne_zero)
  have hx := Edwards.add_x P Q
  have hy := Edwards.add_y P Q
  -- The four factors that the coordinates of a sum are made of.
  have he : ((a.y + a.x) * (b.y + b.x) - (a.y - a.x) * (b.y - b.x) : ZMod p) =
      k * ((P + Q).x * (1 + Edwards.cross P Q)) := by
    rw [hx, ha.x, ha.y, hb.x, hb.y]
    ring
  have hf : (2 * (a.z * b.z) - 2 * d * (a.t * b.t) : ZMod p) = k * (1 - Edwards.cross P Q) := by
    rw [ha.t, hb.t, Edwards.cross]
    ring
  have hg : (2 * (a.z * b.z) + 2 * d * (a.t * b.t) : ZMod p) = k * (1 + Edwards.cross P Q) := by
    rw [ha.t, hb.t, Edwards.cross]
    ring
  have hh : ((a.y + a.x) * (b.y + b.x) + (a.y - a.x) * (b.y - b.x) : ZMod p) =
      k * ((P + Q).y * (1 - Edwards.cross P Q)) := by
    rw [hy, ha.x, ha.y, hb.x, hb.y]
    ring
  constructor <;>
    simp only [Point.add, cast_mul, cast_add, cast_sub, Nat.cast_ofNat, he, hf, hg, hh]
  · exact mul_ne_zero (mul_ne_zero hk (Edwards.one_sub_cross_ne_zero P Q))
      (mul_ne_zero hk (Edwards.one_add_cross_ne_zero P Q))
  · ring
  · ring
  · ring

theorem stands_neg {a : Point} {P : Curve} (ha : Stands a P) : Stands a.neg (-P) := by
  constructor <;> simp [Point.neg, cast_sub, ha.z_ne_zero, ha.x, ha.y, ha.t]

theorem stands_scale {a : Point} {P : Curve} (ha : Stands a P) {n : ℕ} (hn : n < 2 ^ 256) :
    Stands (a.scale n) (n • P) := by
  have hstep : ∀ (k : ℕ) (s : Point) (b : Bool), Stands s (k • P) →
      Stands (if b then (s.add s).add a else s.add s) ((2 * k + b.toNat) • P) := by
    intro k s b hs
    have hdouble : Stands (s.add s) ((2 * k) • P) := by
      rw [two_mul, add_nsmul]
      exact stands_add hs hs
    cases b with
    | false => simpa using hdouble
    | true => simpa [succ_nsmul] using stands_add hdouble ha
  have h :=
    foldl_bits (fun k s => Stands s (k • P)) hstep 256 n 0 Point.zero (by simpa using stands_zero)
  rwa [zero_mul, zero_add, Nat.mod_eq_of_lt hn] at h

def octets (P : Curve) : Bytes := Bytes.ofNatLE 32 (P.y.val + P.x.val % 2 * Nat.pow 2 255)

theorem encode_of_stands {a : Point} {P : Curve} (ha : Stands a P) : a.encode = octets P := by
  have hx : mul a.x (inv a.z) = P.x.val := by
    refine eq_val (mul_lt _ _) ?_
    rw [cast_mul, cast_inv, ha.x, mul_inv_cancel_right₀ ha.z_ne_zero]
  have hy : mul a.y (inv a.z) = P.y.val := by
    refine eq_val (mul_lt _ _) ?_
    rw [cast_mul, cast_inv, ha.y, mul_inv_cancel_right₀ ha.z_ne_zero]
  rw [Point.encode, octets, hx, hy]

theorem toNatLE_octets (P : Curve) :
    Bytes.toNatLE (octets P) = P.y.val + P.x.val % 2 * Nat.pow 2 255 := by
  have hp : p < Nat.pow 2 255 := by norm_num [p]
  have hy : P.y.val < p := ZMod.val_lt _
  rw [octets, Bytes.toNatLE_ofNatLE, Nat.mod_eq_of_lt]
  norm_num at hp ⊢
  omega

theorem denominator_ne_zero (y : ZMod p) : (d : ZMod p) * y ^ 2 + 1 ≠ 0 := by
  intro h
  have hy : y ≠ 0 := by
    rintro rfl
    exact one_ne_zero (by linear_combination h)
  refine d_not_isSquare ⟨rootOfMinusOne / y, ?_⟩
  rw [← sq, div_pow, root_sq]
  field_simp
  linear_combination h

theorem candidate_sq {u v x : ZMod p} (hu : u = x ^ 2 * v) (hv : v ≠ 0) :
    v * (u * (u * v) ^ ((p - 5) / 8)) ^ 2 = u ∨ v * (u * (u * v) ^ ((p - 5) / 8)) ^ 2 = -u := by
  have hp : p / 2 = 4 * ((p - 5) / 8) + 2 := by norm_num [p]
  have hpow : v * (u * (u * v) ^ ((p - 5) / 8)) ^ 2 = u * (x * v) ^ (p / 2) := by
    rw [hp, hu]
    ring
  rw [hpow]
  by_cases hx : x = 0
  · left
    simp [hu, hx]
  · rcases ZMod.pow_div_two_eq_neg_one_or_one p (mul_ne_zero hx hv) with h | h
    · exact .inl (by rw [h, mul_one])
    · exact .inr (by rw [h, mul_neg_one])

/-- The candidate is a root itself, or becomes one with the root of minus one. -/
theorem exists_root {u v r : ℕ} {x : ZMod p} (hu : u < p) (hr : r < p) (hv : (v : ZMod p) ≠ 0)
    (hux : (u : ZMod p) = x ^ 2 * v)
    (hcandidate : (v * r ^ 2 : ZMod p) = u ∨ (v * r ^ 2 : ZMod p) = -u) :
    ∃ root, (if mul v (mul r r) = u then some r
        else if mul v (mul r r) = sub 0 u then some (mul r rootOfMinusOne)
        else none) = some root ∧ root < p ∧ (root : ZMod p) ^ 2 = x ^ 2 := by
  have hcast : (mul v (mul r r) : ZMod p) = v * r ^ 2 := by
    rw [cast_mul, cast_mul, sq]
  have hlt := mul_lt v (mul r r)
  generalize mul v (mul r r) = vrr at hcast hlt ⊢
  by_cases heq : vrr = u
  · refine ⟨r, if_pos heq, hr, mul_left_cancel₀ hv ?_⟩
    rw [← hcast, heq, hux, mul_comm]
  · have hneg : (v * r ^ 2 : ZMod p) = -u := by
      refine hcandidate.resolve_left fun h => heq ?_
      rw [eq_val hlt (hcast.trans h), ZMod.val_natCast_of_lt hu]
    have hopposite : vrr = sub 0 u := by
      rw [eq_val hlt (hcast.trans hneg)]
      symm
      exact eq_val (sub_lt 0 u) (by rw [cast_sub, Nat.cast_zero, zero_sub])
    refine ⟨mul r rootOfMinusOne, by rw [if_neg heq, if_pos hopposite], mul_lt _ _,
      mul_left_cancel₀ hv ?_⟩
    rw [cast_mul, mul_pow, root_sq]
    linear_combination -hneg + hux

theorem parity_choice {x : ZMod p} {root : ℕ} (hroot : root < p) (h : (root : ZMod p) ^ 2 = x ^ 2) :
    (if root % 2 = x.val % 2 then root else sub 0 root) = x.val := by
  have hodd : p % 2 = 1 := by norm_num [p]
  have hx : x.val < p := ZMod.val_lt x
  rcases sq_eq_sq_iff_eq_or_eq_neg.1 h with heq | hneg
  · rw [if_pos (by rw [eq_val hroot heq]), eq_val hroot heq]
  · by_cases h0 : x = 0
    · subst h0
      have hzero : root = 0 := by simpa using eq_val hroot hneg
      simp [hzero]
    · have hval : root = p - x.val := by
        rw [eq_val hroot hneg, ZMod.neg_val, if_neg h0]
      have hpos : 0 < x.val := Nat.pos_of_ne_zero fun h => h0 ((ZMod.val_eq_zero x).1 h)
      rw [if_neg (by omega)]
      refine eq_val (sub_lt _ _) ?_
      rw [cast_sub, hneg]
      simp

theorem xOf?_val (P : Curve) : Point.xOf? P.y.val (P.x.val % 2) = some P.x.val := by
  have hp : (p - 5) / 8 < 2 ^ 256 := by norm_num [p]
  have hP := P.equation
  have hy : (P.y.val : ZMod p) = P.y := ZMod.natCast_zmod_val P.y
  unfold Point.xOf?
  generalize hu : sub (mul P.y.val P.y.val) 1 = u
  generalize hv : add (mul d (mul P.y.val P.y.val)) 1 = v
  have hv0 : (v : ZMod p) ≠ 0 := by
    rw [← hv]
    simp only [cast_add, cast_mul, hy, Nat.cast_one]
    rw [← sq]
    exact denominator_ne_zero P.y
  have hux : (u : ZMod p) = P.x ^ 2 * v := by
    rw [← hu, ← hv]
    simp only [cast_sub, cast_add, cast_mul, hy, Nat.cast_one]
    linear_combination hP
  dsimp only
  generalize hr : mul u (pow (mul u v) ((p - 5) / 8)) = r
  have hcandidate : (v * r ^ 2 : ZMod p) = u ∨ (v * r ^ 2 : ZMod p) = -u := by
    have h := candidate_sq hux hv0
    rwa [← cast_mul, ← cast_pow _ hp, ← cast_mul, hr] at h
  obtain ⟨root, hroot, hlt, hsq⟩ :=
    exists_root (hu ▸ sub_lt _ _) (hr ▸ mul_lt _ _) hv0 hux hcandidate
  rw [hroot, Option.map_some, parity_choice hlt hsq]

theorem decode?_octets (P : Curve) : ∃ a, Point.decode? (octets P) = some a ∧ Stands a P := by
  have hp : p < Nat.pow 2 255 := by norm_num [p]
  have hy : P.y.val < p := ZMod.val_lt _
  have hcy : (P.y.val : ZMod p) = P.y := ZMod.natCast_zmod_val P.y
  have hcx : (P.x.val : ZMod p) = P.x := ZMod.natCast_zmod_val P.x
  refine ⟨⟨P.x.val, P.y.val, 1, mul P.x.val P.y.val⟩, ?_, ?_⟩
  · unfold Point.decode?
    have hmod : (P.y.val + P.x.val % 2 * Nat.pow 2 255) % Nat.pow 2 255 % p = P.y.val := by
      rw [Nat.add_mul_mod_self_right, Nat.mod_eq_of_lt (hy.trans hp), Nat.mod_eq_of_lt hy]
    have hdiv : (P.y.val + P.x.val % 2 * Nat.pow 2 255) / Nat.pow 2 255 = P.x.val % 2 := by
      rw [Nat.add_mul_div_right _ _ (by norm_num), Nat.div_eq_of_lt (hy.trans hp), zero_add]
    rw [toNatLE_octets]
    dsimp only
    rw [hmod, hdiv, xOf?_val, Option.map_some]
  · constructor <;> simp [cast_mul, hcx, hcy]

theorem base_equation : mul Point.base.y Point.base.y =
    add (add 1 (mul Point.base.x Point.base.x))
      (mul d (mul (mul Point.base.x Point.base.x) (mul Point.base.y Point.base.y))) := by
        decide +kernel

def base : Curve where
  x := Point.base.x
  y := Point.base.y
  equation := by
    have h := congrArg (Nat.cast : ℕ → ZMod p) base_equation
    simp only [cast_mul, cast_add, Nat.cast_one] at h
    linear_combination h

theorem stands_base : Stands Point.base base := by
  have hz : Point.base.z = 1 := rfl
  have ht : Point.base.t = mul Point.base.x Point.base.y := by decide +kernel
  constructor <;> simp only [hz, ht, base, cast_mul, Nat.cast_one, mul_one]
  exact one_ne_zero

theorem order_smul_base_coordinates : (Point.base.scale order).x = 0 ∧
    (Point.base.scale order).y = (Point.base.scale order).z := by decide +kernel

theorem order_smul_base : order • base = 0 := by
  have h := stands_scale stands_base (n := order) (by norm_num [order])
  obtain ⟨hx, hy⟩ := order_smul_base_coordinates
  have hcx := h.x
  have hcy := h.y
  rw [hx, Nat.cast_zero] at hcx
  rw [hy] at hcy
  refine Edwards.Point.ext ?_ ?_
  · exact (mul_eq_zero.1 hcx.symm).resolve_right h.z_ne_zero
  · exact mul_right_cancel₀ h.z_ne_zero (by rw [← hcy, Edwards.zero_y, one_mul])

theorem mod_order_smul (n : ℕ) : (n % order) • base = n • base := by
  conv_rhs => rw [← Nat.mod_add_div n order, add_nsmul, mul_nsmul, order_smul_base,
    nsmul_zero, add_zero]

theorem clamp_lt (n : ℕ) : clamp n < 2 ^ 256 := by
  have h : n % Nat.pow 2 254 < Nat.pow 2 254 := Nat.mod_lt _ (by norm_num)
  norm_num [clamp] at h ⊢
  omega

theorem challenge_lt (parts : List Bytes) : challenge parts < order :=
  Nat.mod_lt _ (by norm_num [order])

theorem encode_scale_base {n : ℕ} (hn : n < 2 ^ 256) :
    (Point.base.scale n).encode = octets (n • base) :=
  encode_of_stands (stands_scale stands_base hn)

@[simp] theorem length_octets (P : Curve) : (octets P).length = 32 := by simp [octets]

theorem order_lt : order < 2 ^ 256 := by norm_num [order]

/-- A signature holds if its scalar gives the sum of its point and the challenged
multiple of the public key. -/
theorem verify_of_eq {A R : Curve} {s : ℕ} {message : Bytes} (hs : s < order)
    (h : s • base = R + challenge [octets R, octets A, message] • A) :
    verify (octets A) message (octets R ++ Bytes.ofNatLE 32 s) = true := by
  have htake : (octets R ++ Bytes.ofNatLE 32 s).take 32 = octets R :=
    List.take_left' (length_octets R)
  have hdrop : (octets R ++ Bytes.ofNatLE 32 s).drop 32 = Bytes.ofNatLE 32 s :=
    List.drop_left' (length_octets R)
  have hscalar : Bytes.toNatLE (Bytes.ofNatLE 32 s) = s := by
    have hbytes : (256 : ℕ) ^ 32 = 2 ^ 256 := by norm_num
    rw [Bytes.toNatLE_ofNatLE, hbytes, Nat.mod_eq_of_lt (hs.trans order_lt)]
  obtain ⟨a, hdecode, ha⟩ := decode?_octets A
  have hk := (challenge_lt [octets R, octets A, message]).trans order_lt
  have hsum :=
    stands_add (stands_scale stands_base (hs.trans order_lt)) (stands_scale (stands_neg ha) hk)
  have hR : s • base + challenge [octets R, octets A, message] • -A = R := by
    rw [h, smul_neg, add_neg_cancel_right]
  rw [hR] at hsum
  simp only [verify, htake, hdrop, hscalar, hdecode, encode_of_stands hsum]
  simp [hs]

/-- What a key pair signs holds under its public key. -/
theorem verify_sign (seed message : Bytes) :
    verify (publicKey seed) message (sign seed message) = true := by
  have ha := clamp_lt (Bytes.toNatLE ((Sha512.hash seed).take 32))
  have hr := (challenge_lt [(Sha512.hash seed).drop 32, message]).trans order_lt
  rw [publicKey, sign]
  simp only [encode_scale_base ha, encode_scale_base hr]
  refine verify_of_eq (Nat.mod_lt _ (by norm_num [order])) ?_
  rw [mod_order_smul, add_nsmul, mul_nsmul']

end StubResolver.Ed25519
