import StubResolver.Bytes
import StubResolver.Message.CodecError

set_option autoImplicit false

namespace StubResolver

abbrev Reader (α : Type) := StateT Bytes (Except CodecError) α

namespace Reader

def bytes (n : Nat) : Reader Bytes := fun rest =>
  match Bytes.split? n rest with
  | some (b, rest) => .ok (b, rest)
  | none => .error .outOfBytes

def u8 : Reader UInt8
  | b :: rest => .ok (b, rest)
  | [] => .error .outOfBytes

def u16 : Reader UInt16 := do return Bytes.toUInt16 (← bytes 2)

def u32 : Reader UInt32 := do return Bytes.toUInt32 (← bytes 4)

def replicate {α : Type} (r : Reader α) : Nat → Reader (List α)
  | 0 => return []
  | n + 1 => do
    let a ← r
    return a :: (← replicate r n)

/-- Fails unless `n` more bytes are there; reads none of them. -/
def require (n : Nat) : Reader Unit := fun rest =>
  match Bytes.split? n rest with
  | some _ => .ok ((), rest)
  | none => .error .outOfBytes

end Reader

end StubResolver
