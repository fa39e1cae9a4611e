import StubResolver.Message.Rcode
import StubResolver.Message.Reader

set_option autoImplicit false

namespace StubResolver

structure Header where
  id : UInt16
  isResponse : Bool
  truncated : Bool
  recursionDesired : Bool
  rcode : Option Rcode
  questions : UInt16
  answers : UInt16
  authorities : UInt16
  additionals : UInt16
  deriving DecidableEq, Repr

namespace Header

def assignedOpcodes : List Nat := [0, 1, 2, 4, 5, 6]

def read : Reader Header := do
  let id ← Reader.u16
  let flags ← Reader.u16
  let opcode := (flags.toNat / 0x0800) % 16
  unless assignedOpcodes.contains opcode do throw (.opcode opcode)
  let rcode ← Rcode.ofCode (flags.toNat % 16)
  let isResponse := flags &&& 0x8000 != 0
  return ⟨id, isResponse, flags &&& 0x0200 != 0, flags &&& 0x0100 != 0,
    if isResponse then some rcode else none,
    ← Reader.u16, ← Reader.u16, ← Reader.u16, ← Reader.u16⟩

end Header

end StubResolver
