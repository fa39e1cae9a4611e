import StubResolver.Response
import StubResolver.SystemDial

/-!
Looking addresses up through the operating system. It reports neither record types nor
times to live: the type is the family of the address, and every answer lives for a minute.
Search lists are its own business.
-/

set_option autoImplicit false

namespace StubResolver

structure OperatingSystem where
  prefer : Preference
  deriving DecidableEq, Repr

namespace OperatingSystem

def distinct (ips : List IpAddress) : List IpAddress :=
  ips.foldl (fun kept ip => if kept.contains ip then kept else kept ++ [ip]) []

def fits (t : RecordType) (ip : IpAddress) : Bool :=
  if t = .a then ip.isV4 else if t = .aaaa then ip.isV6 else true

def wanted (prefer : Preference) (ip : IpAddress) : Bool :=
  match prefer with
  | .none => true
  | .ipv4 => ip.isV4
  | .ipv6 => ip.isV6

/-- Keeps the preferred family, if any address belongs to it. -/
def preferred (prefer : Preference) (ips : List IpAddress) : List IpAddress :=
  if ips.any (wanted prefer) then ips.filter (wanted prefer) else ips

def select (t : RecordType) (prefer : Preference) (ips : List IpAddress) : List IpAddress :=
  preferred prefer ((distinct ips).filter (fits t))

/-- The name as the operating system takes it: without the final dot, except for the root itself. -/
def hostOf (name : String) : String :=
  let cs := name.toList
  if cs.getLast? = some '.' && 1 < cs.length then String.ofList cs.dropLast else name

def typeOf (ip : IpAddress) : RecordType := if ip.isV4 then .a else .aaaa

def answer (name roundTrip : String) (ip : IpAddress) : Answer :=
  ⟨name, (typeOf ip).text, RecordClass.internet.text, "60s", ip.text, Rcode.noError.text, roundTrip,
    "system"⟩

variable {σ : Type} (env : Environment σ)

def lookup (sys : OperatingSystem) (question : Question) : Task σ Response := do
  let name := qualify question.name
  let host := hostOf name
  let start ← Task.get env.elapsed
  let found ← Task.io
    (SystemDial.socketAddresses env.hostAddresses ⟨host, IpAddress.ofText? host, 0⟩)
  let finish ← Task.get env.elapsed
  let roundTrip := Duration.wholeMillis ⟨finish.nanos - start.nanos⟩
  let ips := select question.type sys.prefer (found.map SocketAddress.ip)
  return ⟨[{ question with name := name }], ips.map (answer name roundTrip), []⟩

end OperatingSystem

def Preference.label : Preference → String
  | none => "None"
  | ipv4 => "Ipv4"
  | ipv6 => "Ipv6"

def OperatingSystem.fields (s : OperatingSystem) : String :=
  Text.fieldList "SystemResolver" [("prefer", s.prefer.label)] true

end StubResolver
