import StubResolver.DnsCrypt.Error
import StubResolver.Octets
import StubResolver.Text.Base64Url
import StubResolver.Text.Split

set_option autoImplicit false

namespace StubResolver.DnsCrypt

structure Stamp where
  props : UInt64
  /-- Host and port. -/
  address : String
  providerKey : Octets 32
  providerName : String
  deriving DecidableEq, Repr

namespace Stamp

def scheme : String := "sdns://"

def protocol : UInt8 := 0x01

def defaultPort : String := ":443"

def field? : Bytes → Option (Bytes × Bytes)
  | [] => none
  | n :: r => Bytes.split? n.toNat r

/-- The length is cut to one byte. -/
def encodeField (b : Bytes) : Bytes := UInt8.ofNat b.length :: b

def endsEarly : Error := .invalidStamp "stamp ends unexpectedly"

def field (b : Bytes) : Except Error (Bytes × Bytes) :=
  match field? b with
  | some p => .ok p
  | none => .error endsEarly

/-- A colon right after the last bracket; without a bracket, any colon. -/
def hasPort (address : List Char) : Bool :=
  if address.contains ']' then (address.reverse.takeWhile (· != ']')).getLast? = some ':'
  else address.contains ':'

def withPort (address : String) : String :=
  if hasPort address.toList then address else address ++ defaultPort

def fields (b : Bytes) : Except Error (UInt64 × Bytes × Bytes × Bytes) := do
  if b.length < 9 then throw (.invalidStamp "stamp is too short")
  let version := b.headD 0
  if version != protocol then
    throw (.invalidStamp s!"unsupported stamp protocol {hexLiteral 2 version.toNat}")
  let (address, r) ← field (b.drop 9)
  let (key, r) ← field r
  let (name, r) ← field r
  if !r.isEmpty then throw (.invalidStamp "trailing garbage after stamp")
  return (UInt64.ofNat (Bytes.toNatLE ((b.drop 1).take 8)), address, key, name)

def ofBytes (b : Bytes) : Except Error Stamp := do
  let (props, address, key, name) ← fields b
  let some address := Bytes.toString? address
    | throw (.invalidStamp "server address is not UTF-8")
  if address.isEmpty then throw (.invalidStamp "empty server address")
  let some key := Octets.ofBytes? 32 key
    | throw (.invalidStamp "provider key must be 32 bytes")
  let some name := Bytes.toString? name
    | throw (.invalidStamp "provider name is not UTF-8")
  if name.isEmpty then throw (.invalidStamp "empty provider name")
  return ⟨props, withPort address, key, name⟩

/-- The text after the scheme, of which the letters may have any case. -/
def payload? (s : String) : Option String :=
  (Text.stripIgnoringCase? scheme.toList s.toList).map String.ofList

def ofText (s : String) : Except Error Stamp := do
  let some payload := payload? s | throw (.invalidStamp "missing sdns:// scheme")
  match Text.Base64Url.decode (Bytes.ofString payload) with
  | .ok b => ofBytes b
  | .error e => throw (.invalidStamp e.message)

def bytes (s : Stamp) : Bytes :=
  protocol :: Bytes.ofNatLE 8 s.props.toNat ++ encodeField (Bytes.ofString s.address) ++
    encodeField s.providerKey.bytes ++ encodeField (Bytes.ofString s.providerName)

def text (s : Stamp) : String := scheme ++ Text.Base64Url.encode s.bytes

end Stamp

end StubResolver.DnsCrypt
