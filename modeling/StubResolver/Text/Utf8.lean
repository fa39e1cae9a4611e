set_option autoImplicit false

namespace StubResolver.Text

def replacement : Char := Char.ofNat 0xfffd

/-- What a leading byte announces: its payload bits and, for each continuation
byte, the range it must be in. -/
def leadByte (b : UInt8) : Option (Nat × List (Nat × Nat)) :=
  let n := b.toNat
  let any := (0x80, 0xbf)
  if n < 0x80 then some (n, [])
  else if 0xc2 ≤ n ∧ n ≤ 0xdf then some (n - 0xc0, [any])
  else if n = 0xe0 then some (0, [(0xa0, 0xbf), any])
  else if n = 0xed then some (0xd, [(0x80, 0x9f), any])
  else if 0xe1 ≤ n ∧ n ≤ 0xef then some (n - 0xe0, [any, any])
  else if n = 0xf0 then some (0, [(0x90, 0xbf), any, any])
  else if 0xf1 ≤ n ∧ n ≤ 0xf3 then some (n - 0xf0, [any, any, any])
  else if n = 0xf4 then some (4, [(0x80, 0x8f), any, any])
  else none

/-- Decodes from left to right; `pending` holds the payload so far and
the ranges still to be met. -/
def decodeFrom : Option (Nat × List (Nat × Nat)) → List UInt8 → List Char
  | none, [] => []
  | some _, [] => [replacement]
  | none, b :: r =>
    match leadByte b with
    | none => replacement :: decodeFrom none r
    | some (n, []) => Char.ofNat n :: decodeFrom none r
    | some (n, p :: ps) => decodeFrom (some (n, p :: ps)) r
  | some (n, ps), b :: r =>
    match ps with
    | (lo, hi) :: ps =>
      if lo ≤ b.toNat ∧ b.toNat ≤ hi then
        let m := 64 * n + (b.toNat - 0x80)
        match ps with
        | [] => Char.ofNat m :: decodeFrom none r
        | q :: qs => decodeFrom (some (m, q :: qs)) r
      else
        match leadByte b with
        | none => replacement :: replacement :: decodeFrom none r
        | some (m, []) => replacement :: Char.ofNat m :: decodeFrom none r
        | some (m, q :: qs) => replacement :: decodeFrom (some (m, q :: qs)) r
    | [] => replacement :: decodeFrom none r

def decodeLossy (b : List UInt8) : List Char := decodeFrom none b

def isAscii (cs : List Char) : Bool := cs.all fun c => c.toNat < 0x80

end StubResolver.Text
