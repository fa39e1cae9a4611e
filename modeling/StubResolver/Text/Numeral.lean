set_option autoImplicit false

namespace StubResolver.Text

def decimalDigit? (c : Char) : Option Nat :=
  if '0' ≤ c ∧ c ≤ '9' then some (c.toNat - '0'.toNat) else none

def hexDigit? (c : Char) : Option Nat :=
  if '0' ≤ c ∧ c ≤ '9' then some (c.toNat - '0'.toNat)
  else if 'a' ≤ c ∧ c ≤ 'f' then some (c.toNat - 'a'.toNat + 10)
  else if 'A' ≤ c ∧ c ≤ 'F' then some (c.toNat - 'A'.toNat + 10)
  else none

/-- The value of a string of digits, most significant first, continuing from `n`. -/
def digits? (digit? : Char → Option Nat) (base : Nat) : Nat → List Char → Option Nat
  | n, [] => some n
  | n, c :: cs =>
    match digit? c with
    | some d => digits? digit? base (base * n + d) cs
    | none => none

def numeral? (bound : Nat) (cs : List Char) : Option Nat :=
  let ds := match cs with
    | '+' :: r => r
    | r => r
  if ds.isEmpty then none
  else (digits? decimalDigit? 10 0 ds).filter (· < bound)

def lowerHex (n : Nat) : String := String.ofList (Nat.toDigits 16 n)

def upperHex (b : List UInt8) : String :=
  String.ofList (b.flatMap fun x =>
    [(Nat.digitChar (x.toNat / 16)).toUpper, (Nat.digitChar (x.toNat % 16)).toUpper])

def padLeft (n : Nat) (c : Char) (s : String) : String :=
  String.ofList (List.replicate (n - s.length) c) ++ s

def padRight (n : Nat) (c : Char) (s : String) : String :=
  s ++ String.ofList (List.replicate (n - s.length) c)

end StubResolver.Text
