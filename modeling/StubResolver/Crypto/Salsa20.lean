import StubResolver.Crypto.Words

set_option autoImplicit false

namespace StubResolver.Salsa20

open Words (rotateLeft wordOf constants)

def quarter (a b c d : UInt32) : UInt32 × UInt32 × UInt32 × UInt32 :=
  let b := b ^^^ rotateLeft (a + d) 7
  let c := c ^^^ rotateLeft (b + a) 9
  let d := d ^^^ rotateLeft (c + b) 13
  let a := a ^^^ rotateLeft (d + c) 18
  (a, b, c, d)

def doubleRound (s : Words) : Words :=
  let (a0, a4, a8, a12) := quarter s.w0 s.w4 s.w8 s.w12
  let (a5, a9, a13, a1) := quarter s.w5 s.w9 s.w13 s.w1
  let (a10, a14, a2, a6) := quarter s.w10 s.w14 s.w2 s.w6
  let (a15, a3, a7, a11) := quarter s.w15 s.w3 s.w7 s.w11
  let (b0, b1, b2, b3) := quarter a0 a1 a2 a3
  let (b5, b6, b7, b4) := quarter a5 a6 a7 a4
  let (b10, b11, b8, b9) := quarter a10 a11 a8 a9
  let (b15, b12, b13, b14) := quarter a15 a12 a13 a14
  ⟨b0, b1, b2, b3, b4, b5, b6, b7, b8, b9, b10, b11, b12, b13, b14, b15⟩

def start (key input : Bytes) : Words :=
  let k := wordOf key
  let n := wordOf input
  let (c0, c1, c2, c3) := constants
  ⟨c0, k 0, k 1, k 2, k 3, c1, n 0, n 1, n 2, n 3, c2, k 4, k 5, k 6, k 7, c3⟩

def block (key nonce : Bytes) (i : Nat) : Bytes :=
  let s := start key (nonce ++ Bytes.ofNatLE 8 i)
  Words.bytesOf (s.add (Words.iterate doubleRound 10 s)).toList

def derive (key input : Bytes) : Bytes :=
  let s := Words.iterate doubleRound 10 (start key input)
  Words.bytesOf [s.w0, s.w5, s.w10, s.w15, s.w6, s.w7, s.w8, s.w9]

end StubResolver.Salsa20
