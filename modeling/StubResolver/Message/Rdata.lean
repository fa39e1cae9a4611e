import StubResolver.IpAddress
import StubResolver.Message.Name
import StubResolver.Message.RecordType
import StubResolver.Text.Utf8

set_option autoImplicit false

namespace StubResolver

structure SoaData where
  primary : Name
  mailbox : Name
  serial : UInt32
  refresh : UInt32
  retry : UInt32
  expire : UInt32
  minimum : UInt32
  deriving DecidableEq, Repr

inductive Rdata where
  | a (address : Ipv4)
  | aaaa (address : Ipv6)
  /-- NS, CNAME, PTR and DNAME data. -/
  | name (target : Name)
  | soa (data : SoaData)
  | mx (preference : Int16) (exchange : Name)
  | txt (strings : List String)
  | hinfo (cpu os : String)
  | rp (mailbox text : Name)
  | srv (priority weight port : UInt16) (target : Name)
  | naptr (order preference : UInt16) (flags services regexp : String) (target : Name)
  | other (data : Bytes)
  deriving DecidableEq, Repr

namespace Rdata

/-- A length byte and that many bytes, which must be ASCII. -/
def readString : Reader String := do
  let n ← Reader.u8
  let b ← Reader.bytes n.toNat
  let cs := Text.decodeLossy b
  if Text.isAscii cs then return String.ofList cs else throw (.notAscii (String.ofList cs))

/-- Reads strings while fewer than `length` bytes are read. A string takes a byte for its length
and, being ASCII, one for each character; so `length` also bounds the number of strings. -/
def readStrings : Nat → Nat → Reader (List String)
  | 0, _ => return []
  | strings + 1, length => do
    if length = 0 then return []
    else
      let s ← readString
      return s :: (← readStrings strings (length - (1 + s.length)))

def readA : Reader Rdata := do
  match Ipv4.ofBytes? (← Reader.bytes 4) with
  | some ip => return .a ip
  | none => throw .outOfBytes

def readAaaa : Reader Rdata := do
  match Ipv6.ofBytes? (← Reader.bytes 16) with
  | some ip => return .aaaa ip
  | none => throw .outOfBytes

def readSoa (message : Bytes) : Reader Rdata := do
  return .soa ⟨← Name.read message true, ← Name.read message true, ← Reader.u32, ← Reader.u32,
    ← Reader.u32, ← Reader.u32, ← Reader.u32⟩

def read (message : Bytes) (t : RecordType) (length : Nat) : Reader Rdata :=
  if t = .a then readA
  else if t = .aaaa then readAaaa
  else if t = .ns ∨ t = .cname ∨ t = .ptr ∨ t = .dname then do
    return .name (← Name.read message true)
  else if t = .soa then readSoa message
  else if t = .mx then do
    return .mx (Int16.ofNat (← Reader.u16).toNat) (← Name.read message true)
  else if t = .txt then do return .txt (← readStrings length length)
  else if t = .hinfo then do return .hinfo (← readString) (← readString)
  else if t = .rp then do return .rp (← Name.read message true) (← Name.read message true)
  else if t = .srv then do
    return .srv (← Reader.u16) (← Reader.u16) (← Reader.u16) (← Name.read message false)
  else if t = .naptr then do
    return .naptr (← Reader.u16) (← Reader.u16) (← readString) (← readString) (← readString)
      (← Name.read message false)
  else do return .other (← Reader.bytes length)

def quoteString (s : String) : String :=
  "\"" ++ String.ofList (s.toList.flatMap fun c => if c = '"' then ['\\', '"'] else [c]) ++ "\""

def text : Rdata → String
  | a ip => ip.text
  | aaaa ip => ip.text
  | name n => n.text
  | soa d =>
    s!"{d.primary.text} {d.mailbox.text} {d.serial} {d.refresh} {d.retry} {d.expire} {d.minimum}"
  | mx p n => s!"{p.toInt} {n.text}"
  | txt l => " ".intercalate (l.map quoteString)
  | hinfo c o => s!"{c} {o}"
  | rp m t => s!"{m.text} {t.text}"
  | srv p w port n => s!"{p} {w} {port} {n.text}"
  | naptr o p f s r n =>
    s!"{o} {p}" ++ " \"" ++ f ++ "\" \"" ++ s ++ "\" \"" ++ r ++ "\" " ++ n.text
  | other b => "\\# " ++ s!"{b.length} {Text.upperHex b}"

end Rdata

end StubResolver
