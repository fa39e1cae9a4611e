import StubResolver.Crypto.Curve25519
import StubResolver.Crypto.Sha512

/-!
Ed25519 signatures. Public keys are accepted in any encoding of a point of the curve,
also of small order; the scalar of a signature must be reduced, and the point of a
signature is compared by its bytes.
-/

set_option autoImplicit false

namespace StubResolver.Ed25519

open Curve25519 (p order add sub mul pow inv bits)

def d : Nat := mul (p - 121665) (inv 121666)

def rootOfMinusOne : Nat := pow 2 ((p - 1) / 4)

/-- A point of the twisted Edwards curve: `x / z` and `y / z`, with `t = x y / z`. -/
structure Point where
  (x y z t : Nat)
  deriving DecidableEq, Repr

namespace Point

def zero : Point := ⟨0, 1, 1, 0⟩

def add (a b : Point) : Point :=
  let m := mul (sub a.y a.x) (sub b.y b.x)
  let n := mul (Curve25519.add a.y a.x) (Curve25519.add b.y b.x)
  let c := mul (mul 2 d) (mul a.t b.t)
  let z := mul 2 (mul a.z b.z)
  let e := sub n m
  let f := sub z c
  let g := Curve25519.add z c
  let h := Curve25519.add n m
  ⟨mul e f, mul g h, mul f g, mul e h⟩

def neg (a : Point) : Point := ⟨sub 0 a.x, a.y, a.z, sub 0 a.t⟩

def scale (n : Nat) (a : Point) : Point :=
  (bits 256 n).foldl (fun s b => if b then add (add s s) a else add s s) zero

/-- The coordinate `y`, with the parity of `x` as the top bit. -/
def encode (a : Point) : Bytes :=
  let x := mul a.x (inv a.z)
  let y := mul a.y (inv a.z)
  Bytes.ofNatLE 32 (y + x % 2 * Nat.pow 2 255)

/-- The coordinate `x` of the point with coordinate `y` and the given parity. -/
def xOf? (y parity : Nat) : Option Nat :=
  let u := sub (mul y y) 1
  let v := Curve25519.add (mul d (mul y y)) 1
  let r := mul u (pow (mul u v) ((p - 5) / 8))
  let vrr := mul v (mul r r)
  let root :=
    if vrr = u then some r
    else if vrr = sub 0 u then some (mul r rootOfMinusOne)
    else none
  root.map fun x => if x % 2 = parity then x else sub 0 x

def decode? (b : Bytes) : Option Point :=
  let n := Bytes.toNatLE b
  let y := n % Nat.pow 2 255 % p
  (xOf? y (n / Nat.pow 2 255)).map fun x => ⟨x, y, 1, mul x y⟩

def base : Point :=
  let y := mul 4 (inv 5)
  let x := (xOf? y 0).getD 0
  ⟨x, y, 1, mul x y⟩

end Point

def challenge (parts : List Bytes) : Nat := Bytes.toNatLE (Sha512.hash parts.flatten) % order

def publicKey (seed : Bytes) : Bytes :=
  (Point.base.scale (Curve25519.clamp (Bytes.toNatLE ((Sha512.hash seed).take 32)))).encode

def sign (seed message : Bytes) : Bytes :=
  let h := Sha512.hash seed
  let a := Curve25519.clamp (Bytes.toNatLE (h.take 32))
  let pk := (Point.base.scale a).encode
  let r := challenge [h.drop 32, message]
  let rPoint := (Point.base.scale r).encode
  let k := challenge [rPoint, pk, message]
  rPoint ++ Bytes.ofNatLE 32 ((r + k * a) % order)

def verify (pk message signature : Bytes) : Bool :=
  if pk.length != 32 || signature.length != 64 then false
  else
    let r := signature.take 32
    let s := Bytes.toNatLE (signature.drop 32)
    if order ≤ s then false
    else match Point.decode? pk with
      | none => false
      | some a =>
        let k := challenge [r, pk, message]
        (Point.add (Point.base.scale s) (a.neg.scale k)).encode = r

theorem Point.length_encode (a : Point) : a.encode.length = 32 := by simp [Point.encode]

theorem length_sign (seed message : Bytes) : (sign seed message).length = 64 := by
  simp [sign, Point.length_encode]

end StubResolver.Ed25519
