import StubResolver.Message.Header
import StubResolver.Message.Rdata
import StubResolver.Message.RecordClass

set_option autoImplicit false

namespace StubResolver

structure ResourceRecord where
  owner : Name
  type : RecordType
  recordClass : RecordClass
  ttl : UInt32
  data : Rdata
  deriving DecidableEq, Repr

structure OptRecord where
  payloadSize : UInt16
  rcode : Option Rcode
  version : UInt8
  flags : UInt16
  options : List (UInt16 × Bytes)
  deriving DecidableEq, Repr

inductive Record where
  | resource (record : ResourceRecord)
  | opt (record : OptRecord)
  deriving DecidableEq, Repr

namespace Record

def resource? : Record → Option ResourceRecord
  | resource r => some r
  | opt _ => none

def opt? : Record → Option OptRecord
  | resource _ => none
  | opt r => some r

/-- Reads options while fewer than `length` bytes are read; each takes at least four. -/
def readOptions : Nat → Nat → Reader (List (UInt16 × Bytes))
  | 0, _ => return []
  | options + 1, length => do
    if length = 0 then return []
    else
      let code ← Reader.u16
      let n ← Reader.u16
      let b ← Reader.bytes n.toNat
      return (code, b) :: (← readOptions options (length - (4 + n.toNat)))

/-- The response code is extended before the rest of the record is looked at. -/
def readOpt (rcode : Option Rcode) (owner : Name) : Reader OptRecord := do
  if owner != Name.root then throw (.optOwner owner.text)
  let payloadSize ← Reader.u16
  let extension ← Reader.u8
  let rcode ← rcode.mapM fun (r : Rcode) => r.extend extension
  let version ← Reader.u8
  let flags ← Reader.u16
  let length := (← Reader.u16).toNat
  Reader.require length
  return ⟨payloadSize, rcode, version, flags, ← readOptions length length⟩

def readResource (message : Bytes) (owner : Name) (type : RecordType) : Reader ResourceRecord := do
  let recordClass ← RecordClass.read
  let ttl ← Reader.u32
  let length := (← Reader.u16).toNat
  Reader.require length
  return ⟨owner, type, recordClass, ttl, ← Rdata.read message type length⟩

def read (message : Bytes) (rcode : Option Rcode) : Reader Record := do
  let owner ← Name.read message true
  let type : RecordType := ⟨← Reader.u16⟩
  if type = .opt then return .opt (← readOpt rcode owner)
  else return .resource (← readResource message owner type)

end Record

end StubResolver
