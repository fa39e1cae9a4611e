import StubResolver.IpAddress
import StubResolver.Text.FieldList
import StubResolver.Text.Quoted

set_option autoImplicit false

namespace StubResolver

structure Nameserver where
  host : String
  /-- Set if the host is an address literal. -/
  ip : Option IpAddress
  port : UInt16
  deriving DecidableEq, Repr

namespace Nameserver

/-- Cuts an address into its host and the text of its port, if it has one. -/
def hostAndPort? : List Char → Option (List Char × Option (List Char))
  | '[' :: r =>
    match Text.splitOnce? ']' r with
    | some (host, []) => some (host, none)
    | some (host, ':' :: port) => some (host, some port)
    | _ => none
  | cs =>
    if 1 < cs.count ':' then some (cs, none)
    else match Text.splitOnce? ':' cs with
      | some (host, port) => some (host, some port)
      | none => some (cs, none)

def port? (cs : List Char) : Option UInt16 := (Text.numeral? 65536 cs).map UInt16.ofNat

/-- Reads `host`, `host:port`, `[v6]`, `[v6]:port` or a bare IPv6 literal. -/
def ofText? (s : String) (defaultPort : UInt16) : Option Nameserver := do
  let (host, port) ← hostAndPort? s.toList
  if host.isEmpty then none
  else
    let port ← match port with
      | some p => port? p
      | none => some defaultPort
    some ⟨String.ofList host, IpAddress.ofChars? host, port⟩

/-- An IPv4-mapped IPv6 address is shown as the IPv4 address. -/
def text (n : Nameserver) : String :=
  match n.ip with
  | some (.v6 ip) =>
    match ip.mapped? with
    | some v4 => s!"{v4.text}:{n.port.toNat}"
    | none => s!"[{ip.text}]:{n.port.toNat}"
  | some (.v4 ip) => s!"{ip.text}:{n.port.toNat}"
  | none => s!"{n.host}:{n.port.toNat}"

def fields (n : Nameserver) : String :=
  Text.fieldList "Nameserver" [("host", Text.quoted n.host),
    ("ip", Text.optional (n.ip.map IpAddress.text)), ("port", toString n.port.toNat)] true

def invalid (s : String) : String := "invalid nameserver address " ++ Text.quoted s

end Nameserver

end StubResolver
