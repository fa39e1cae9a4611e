import StubResolver.Bytes
import StubResolver.DnsCrypt.Error

set_option autoImplicit false

namespace StubResolver.DnsCrypt.Padding

def blockSize : Nat := 64

def minQuerySize : Nat := 256

def marker : UInt8 := 0x80

/-- The least multiple of the block size that is at least `minimum` and
leaves room for the marker. -/
def paddedSize (minimum size : Nat) : Nat :=
  (max minimum (size + 1) + (blockSize - 1)) / blockSize * blockSize

def padTo (minimum : Nat) (b : Bytes) : Bytes :=
  b ++ marker :: Bytes.zeros (paddedSize minimum b.length - (b.length + 1))

def pad (b : Bytes) : Bytes := padTo minQuerySize b

def unpad (b : Bytes) : Except Error Bytes :=
  match b.reverse.dropWhile (· = 0) with
  | [] => .error .invalidPadding
  | x :: r => if x = marker then .ok r.reverse else .error .invalidPadding

theorem le_paddedSize (minimum size : Nat) : size + 1 ≤ paddedSize minimum size := by
  unfold paddedSize blockSize
  omega

theorem length_padTo (minimum : Nat) (b : Bytes) :
    (padTo minimum b).length = paddedSize minimum b.length := by
  have h := le_paddedSize minimum b.length
  simp only [padTo, List.length_append, List.length_cons, Bytes.length_zeros]
  omega

end StubResolver.DnsCrypt.Padding
