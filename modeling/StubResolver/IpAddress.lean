import StubResolver.Bytes
import StubResolver.Text.Numeral
import StubResolver.Text.Split

set_option autoImplicit false

namespace StubResolver

structure Ipv4 where
  (a b c d : UInt8)
  deriving DecidableEq, Repr

structure Ipv6 where
  (g0 g1 g2 g3 g4 g5 g6 g7 : UInt16)
  deriving DecidableEq, Repr

inductive IpAddress where
  | v4 (address : Ipv4)
  | v6 (address : Ipv6)
  deriving DecidableEq, Repr

namespace Ipv4

def ofBytes? : Bytes → Option Ipv4
  | [a, b, c, d] => some ⟨a, b, c, d⟩
  | _ => none

def text (ip : Ipv4) : String :=
  ".".intercalate ([ip.a, ip.b, ip.c, ip.d].map fun x => toString x.toNat)

/-- One to three digits, no leading zero unless it is the only digit, below 256. -/
def octet? (cs : List Char) : Option UInt8 :=
  if cs.isEmpty || cs.length > 3 || (cs.length > 1 && cs.head? = some '0') then none
  else ((Text.digits? Text.decimalDigit? 10 0 cs).filter (· < 256)).map UInt8.ofNat

def ofText? (cs : List Char) : Option Ipv4 := do
  ofBytes? (← (cs.splitOn '.').mapM octet?)

def groups (ip : Ipv4) : List UInt16 := [Bytes.toUInt16 [ip.a, ip.b], Bytes.toUInt16 [ip.c, ip.d]]

end Ipv4

namespace Ipv6

def groups (ip : Ipv6) : List UInt16 := [ip.g0, ip.g1, ip.g2, ip.g3, ip.g4, ip.g5, ip.g6, ip.g7]

def ofGroups? : List UInt16 → Option Ipv6
  | [g0, g1, g2, g3, g4, g5, g6, g7] => some ⟨g0, g1, g2, g3, g4, g5, g6, g7⟩
  | _ => none

def ofBytes? : Bytes → Option Ipv6
  | [a0, a1, b0, b1, c0, c1, d0, d1, e0, e1, f0, f1, h0, h1, i0, i1] =>
    let g (x y : UInt8) := Bytes.toUInt16 [x, y]
    some ⟨g a0 a1, g b0 b1, g c0 c1, g d0 d1, g e0 e1, g f0 f1, g h0 h1, g i0 i1⟩
  | _ => none

def mapped? (ip : Ipv6) : Option Ipv4 :=
  if [ip.g0, ip.g1, ip.g2, ip.g3, ip.g4] = [0, 0, 0, 0, 0] ∧ ip.g5 = 0xffff then
    Ipv4.ofBytes? (Bytes.ofUInt16 ip.g6 ++ Bytes.ofUInt16 ip.g7)
  else none

/-- Start and length of the first longest run of zero groups, counting from `i`. -/
def longestZeros : Nat → List UInt16 → Nat × Nat
  | i, [] => (i, 0)
  | i, g :: gs =>
    let n := ((g :: gs).takeWhile (· = 0)).length
    let best := longestZeros (i + 1) gs
    if n = 0 ∨ n < best.2 then best else (i, n)

def hexGroups (gs : List UInt16) : String :=
  ":".intercalate (gs.map fun g => Text.lowerHex g.toNat)

/-- All in groups. The first of the longest runs of two or more zero
groups is written as two colons. -/
def groupText (ip : Ipv6) : String :=
  let (i, n) := longestZeros 0 ip.groups
  if n < 2 then hexGroups ip.groups
  else hexGroups (ip.groups.take i) ++ "::" ++ hexGroups (ip.groups.drop (i + n))

/-- In groups, but an IPv4-mapped address ends in the IPv4 address. -/
def text (ip : Ipv6) : String :=
  match ip.mapped? with
  | some v4 => "::ffff:" ++ v4.text
  | none => ip.groupText

def group? (cs : List Char) : Option UInt16 :=
  if cs.isEmpty || cs.length > 4 then none
  else (Text.digits? Text.hexDigit? 16 0 cs).map UInt16.ofNat

/-- Reads groups between colons; with `tail` set the last field may be an IPv4 address. -/
def groups? (tail : Bool) : List (List Char) → Option (List UInt16)
  | [] => some []
  | [f] =>
    match group? f with
    | some g => some [g]
    | none => if tail then (Ipv4.ofText? f).map Ipv4.groups else none
  | f :: fs =>
    match group? f, groups? tail fs with
    | some g, some gs => some (g :: gs)
    | _, _ => none

def colonFields (cs : List Char) : List (List Char) := if cs.isEmpty then [] else cs.splitOn ':'

def splitDoubleColon? : List Char → Option (List Char × List Char)
  | ':' :: ':' :: r => some ([], r)
  | c :: r => (splitDoubleColon? r).map fun p => (c :: p.1, p.2)
  | [] => none

def ofText? (cs : List Char) : Option Ipv6 :=
  match splitDoubleColon? cs with
  | none => do ofGroups? (← groups? true (colonFields cs))
  | some (front, back) => do
    let head ← groups? false (colonFields front)
    let tail ← groups? true (colonFields back)
    if head.length + tail.length ≤ 7 then
      ofGroups? (head ++ List.replicate (8 - head.length - tail.length) 0 ++ tail)
    else none

end Ipv6

namespace IpAddress

def text : IpAddress → String
  | v4 a => a.text
  | v6 a => a.text

def ofChars? (cs : List Char) : Option IpAddress :=
  match Ipv4.ofText? cs with
  | some a => some (v4 a)
  | none => (Ipv6.ofText? cs).map v6

def ofText? (s : String) : Option IpAddress := ofChars? s.toList

def isV4 : IpAddress → Bool
  | v4 _ => true
  | v6 _ => false

def isV6 : IpAddress → Bool
  | v4 _ => false
  | v6 _ => true

end IpAddress

structure SocketAddress where
  ip : IpAddress
  port : UInt16
  deriving DecidableEq, Repr

def SocketAddress.text (s : SocketAddress) : String :=
  match s.ip with
  | .v4 a => s!"{a.text}:{s.port.toNat}"
  | .v6 a => s!"[{a.text}]:{s.port.toNat}"

end StubResolver
