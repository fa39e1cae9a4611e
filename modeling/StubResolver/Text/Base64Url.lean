import StubResolver.Bytes

set_option autoImplicit false

namespace StubResolver.Text.Base64Url

inductive Error where
  | length (position : Nat)
  | symbol (position : Nat)
  | trailingBits (position : Nat)
  deriving DecidableEq, Repr

def Error.message : Error → String
  | length n => s!"invalid length at {n}"
  | symbol n => s!"invalid symbol at {n}"
  | trailingBits n => s!"non-zero trailing bits at {n}"

def symbol (n : Nat) : Char :=
  if n < 26 then Char.ofNat (n + 65)
  else if n < 52 then Char.ofNat (n - 26 + 97)
  else if n < 62 then Char.ofNat (n - 52 + 48)
  else if n = 62 then '-'
  else '_'

def value? (b : UInt8) : Option Nat :=
  let n := b.toNat
  if 65 ≤ n ∧ n < 91 then some (n - 65)
  else if 97 ≤ n ∧ n < 123 then some (n - 97 + 26)
  else if 48 ≤ n ∧ n < 58 then some (n - 48 + 52)
  else if n = 45 then some 62
  else if n = 95 then some 63
  else none

def sextets : Bytes → List Nat
  | a :: b :: c :: r =>
    a.toNat / 4 :: (a.toNat % 4 * 16 + b.toNat / 16) :: (b.toNat % 16 * 4 + c.toNat / 64) ::
      c.toNat % 64 :: sextets r
  | [a, b] => [a.toNat / 4, a.toNat % 4 * 16 + b.toNat / 16, b.toNat % 16 * 4]
  | [a] => [a.toNat / 4, a.toNat % 4 * 16]
  | [] => []

def encode (b : Bytes) : String := String.ofList ((sextets b).map symbol)

def values : Nat → Bytes → Except Error (List Nat)
  | _, [] => .ok []
  | position, b :: r =>
    match value? b with
    | none => .error (.symbol position)
    | some v => do return v :: (← values (position + 1) r)

/-- The bytes that six-bit groups make up; nothing if bits are left over that are not zero. -/
def octets? : List Nat → Option Bytes
  | a :: b :: c :: d :: r => do
    return UInt8.ofNat (a * 4 + b / 16) :: UInt8.ofNat (b * 16 + c / 4) ::
      UInt8.ofNat (c * 64 + d) ::
      (← octets? r)
  | [a, b, c] =>
    if c % 4 = 0 then some [UInt8.ofNat (a * 4 + b / 16), UInt8.ofNat (b * 16 + c / 4)] else none
  | [a, b] => if b % 16 = 0 then some [UInt8.ofNat (a * 4 + b / 16)] else none
  | [_] => none
  | [] => some []

def decode (text : Bytes) : Except Error Bytes :=
  if text.length % 4 = 1 then .error (.length (text.length - 1))
  else do
    match octets? (← values 0 text) with
    | some b => return b
    | none => throw (.trailingBits (text.length - 1))

end StubResolver.Text.Base64Url
