import StubResolver.Bytes

set_option autoImplicit false

namespace StubResolver.Poly1305

def modulus : Nat := Nat.pow 2 130 - 5

def clamp (r : Nat) : Nat := r &&& 0x0ffffffc0ffffffc0ffffffc0fffffff

def tag (key message : Bytes) : Bytes :=
  let r := clamp (Bytes.toNatLE (key.take 16))
  let s := Bytes.toNatLE (key.drop 16)
  let sum := (Bytes.chunks 16 message).foldl
    (fun acc c => (acc + Bytes.toNatLE (c ++ [1])) * r % modulus) 0
  Bytes.ofNatLE 16 (sum + s)

@[simp] theorem length_tag (key message : Bytes) : (tag key message).length = 16 := by simp [tag]

end StubResolver.Poly1305
