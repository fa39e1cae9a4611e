import StubResolver.Crypto.Words

set_option autoImplicit false

namespace StubResolver.ChaCha20

open Words (rotateLeft wordOf constants)

def quarter (a b c d : UInt32) : UInt32 × UInt32 × UInt32 × UInt32 :=
  let a := a + b
  let d := rotateLeft (d ^^^ a) 16
  let c := c + d
  let b := rotateLeft (b ^^^ c) 12
  let a := a + b
  let d := rotateLeft (d ^^^ a) 8
  let c := c + d
  let b := rotateLeft (b ^^^ c) 7
  (a, b, c, d)

def doubleRound (s : Words) : Words :=
  let (a0, a4, a8, a12) := quarter s.w0 s.w4 s.w8 s.w12
  let (a1, a5, a9, a13) := quarter s.w1 s.w5 s.w9 s.w13
  let (a2, a6, a10, a14) := quarter s.w2 s.w6 s.w10 s.w14
  let (a3, a7, a11, a15) := quarter s.w3 s.w7 s.w11 s.w15
  let (b0, b5, b10, b15) := quarter a0 a5 a10 a15
  let (b1, b6, b11, b12) := quarter a1 a6 a11 a12
  let (b2, b7, b8, b13) := quarter a2 a7 a8 a13
  let (b3, b4, b9, b14) := quarter a3 a4 a9 a14
  ⟨b0, b1, b2, b3, b4, b5, b6, b7, b8, b9, b10, b11, b12, b13, b14, b15⟩

def start (key input : Bytes) : Words :=
  let k := wordOf key
  let n := wordOf input
  let (c0, c1, c2, c3) := constants
  ⟨c0, c1, c2, c3, k 0, k 1, k 2, k 3, k 4, k 5, k 6, k 7, n 0, n 1, n 2, n 3⟩

/-- Block number `i` of the key stream for an 8-byte nonce. -/
def block (key nonce : Bytes) (i : Nat) : Bytes :=
  let s := start key (Bytes.ofNatLE 8 i ++ nonce)
  Words.bytesOf (s.add (Words.iterate doubleRound 10 s)).toList

def derive (key input : Bytes) : Bytes :=
  let s := Words.iterate doubleRound 10 (start key input)
  Words.bytesOf [s.w0, s.w1, s.w2, s.w3, s.w12, s.w13, s.w14, s.w15]

end StubResolver.ChaCha20
