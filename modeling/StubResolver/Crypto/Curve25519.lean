import StubResolver.Bytes

/-!
The field of integers modulo 2^255 - 19, and the agreement of keys on its Montgomery curve. A secret
scalar is clamped and then reduced modulo the order of the prime-order subgroup before it multiplies
a point; the top bit of a public key does not count.
-/

set_option autoImplicit false

namespace StubResolver.Curve25519

def p : Nat := Nat.pow 2 255 - 19

def order : Nat := Nat.pow 2 252 + 27742317777372353535851937790883648493

def bits (width n : Nat) : List Bool := (List.range width).reverse.map n.testBit

def add (a b : Nat) : Nat := (a + b) % p

def sub (a b : Nat) : Nat := (a + (p - b % p)) % p

def mul (a b : Nat) : Nat := a * b % p

def pow (a e : Nat) : Nat :=
  (bits 256 e).foldl (fun x b => if b then mul (mul x x) a else mul x x) 1

def inv (a : Nat) : Nat := pow a (p - 2)

def clamp (n : Nat) : Nat := n % Nat.pow 2 254 / 8 * 8 + Nat.pow 2 254

def secretScalar (sk : Bytes) : Nat := clamp (Bytes.toNatLE sk) % order

structure Pair where
  (x2 z2 x3 z3 : Nat)

/-- From `(P, Q)` to `(2P, P + Q)`, where `Q - P` has coordinate `u`. -/
def step (u : Nat) (s : Pair) : Pair :=
  let a := add s.x2 s.z2
  let aa := mul a a
  let b := sub s.x2 s.z2
  let bb := mul b b
  let e := sub aa bb
  let da := mul (sub s.x3 s.z3) a
  let cb := mul (add s.x3 s.z3) b
  ⟨mul aa bb, mul e (add aa (mul 121665 e)), mul (add da cb) (add da cb),
    mul u (mul (sub da cb) (sub da cb))⟩

def Pair.swap (s : Pair) : Pair := ⟨s.x3, s.z3, s.x2, s.z2⟩

/-- The coordinate of `n` times the point with coordinate `u`, for `n` below `2 ^ 256`. -/
def ladder (n u : Nat) : Nat :=
  let s := (bits 256 n).foldl
    (fun s b => if b then (step u s.swap).swap else step u s) ⟨1, 0, u % p, 1⟩
  mul s.x2 (inv s.z2)

def agree (sk pk : Bytes) : Bytes :=
  Bytes.ofNatLE 32 (ladder (secretScalar sk) (Bytes.toNatLE pk % Nat.pow 2 255 % p))

def publicKey (sk : Bytes) : Bytes := Bytes.ofNatLE 32 (ladder (secretScalar sk) 9)

@[simp] theorem length_publicKey (sk : Bytes) : (publicKey sk).length = 32 := by simp [publicKey]

end StubResolver.Curve25519
