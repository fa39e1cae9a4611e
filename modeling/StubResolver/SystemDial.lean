import StubResolver.Environment

set_option autoImplicit false

namespace StubResolver.SystemDial

/-- The socket addresses of a host; an address literal stands for itself, and no
host name holds a zero byte. -/
def socketAddresses {σ : Type} (hostAddresses : String → Action σ IoError (List IpAddress))
    (ns : Nameserver) : Action σ IoError (List SocketAddress) := fun s =>
  match ns.ip with
  | some ip => (.ok [⟨ip, ns.port⟩], s)
  | none =>
    if ns.host.toList.contains '\x00' then
      (.error ⟨.invalidInput, "file name contained an unexpected NUL byte"⟩, s)
    else match hostAddresses ns.host s with
      | (.ok ips, s) => (.ok (ips.map fun ip => ⟨ip, ns.port⟩), s)
      | (.error e, s) => (.error e, s)

def noUsableAddress (ns : Nameserver) (family : Family) : IoError :=
  ⟨.notFound, s!"no usable address for {ns.text} ({family.label})"⟩

def notConnected : IoError := ⟨.notConnected, "not connected"⟩

/-- Tries the addresses in order; the error is that of the last one tried. -/
def firstConnected {σ : Type} (connect : SocketAddress → Action σ IoError Unit) :
    IoError → List SocketAddress → Action σ IoError SocketAddress
  | e, [], s => (.error e, s)
  | _, a :: as, s =>
    match connect a s with
    | (.ok (), s) => (.ok a, s)
    | (.error e, s) => firstConnected connect e as s

def dial {σ : Type} (hostAddresses : String → Action σ IoError (List IpAddress))
    (connect : Protocol → Duration → SocketAddress → Action σ IoError Unit) (d : Dial) :
    Action σ IoError SocketAddress := fun s =>
  match socketAddresses hostAddresses d.nameserver s with
  | (.error e, s) => (.error e, s)
  | (.ok all, s) =>
    match all.filter fun a => d.family.holds a.ip with
    | [] => (.error (noUsableAddress d.nameserver d.family), s)
    | a :: as => firstConnected (connect d.protocol d.timeout) notConnected (a :: as) s

end StubResolver.SystemDial
