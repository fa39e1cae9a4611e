import StubResolver.Exchange
import StubResolver.Inquiry
import StubResolver.ServerName

set_option autoImplicit false

namespace StubResolver

structure Classic where
  nameserver : Nameserver
  network : Network
  options : Options
  /-- The name that the peer has to prove, with TLS. -/
  serverName : Option String
  deriving DecidableEq, Repr

namespace Classic

def defaultPort : UInt16 := 53

def schemes : List String := ["udp://", "tcp://", "tls://"]

/-- The address without its scheme, if it has one of this transport. -/
def withoutScheme (address : String) : String :=
  match schemes.findSome? fun p => Text.stripIgnoringCase? p.toList address.toList with
  | some cs => String.ofList cs
  | none => address

/-- Sets the transport up for a nameserver. The default port is the same with and without TLS. -/
def ofAddress (address : String) (tcp tls : Bool) (o : Options) : Except Error Classic := do
  let address := withoutScheme address
  let some ns :=
    Nameserver.ofText? address defaultPort | throw (.config (Nameserver.invalid address))
  let network := Network.ofOptions tcp tls o
  if tls then
    let host := o.tlsHostname.getD ns.host
    if ServerName.valid host then return ⟨ns, network, o, some host⟩
    else throw (.config s!"{host} is not a valid TLS server name, please set a TLS hostname")
  else return ⟨ns, network, o, none⟩

variable {σ : Type} (env : Environment σ) (c : Classic)

def exchange (network : Network) (message : Bytes) : Task σ Bytes :=
  let timeout := c.options.timeout
  match network.tls, c.serverName with
  | true, some name =>
    Exchange.tls env c.nameserver network.family timeout name (!c.options.insecure) message
  | _, _ =>
    if network.isStream then Exchange.tcp env c.nameserver network.family timeout message
    else Exchange.udp env c.nameserver network.family timeout message

def lookup (question : Question) : Task σ Response := do
  let ids ← Task.run env.queryIds
  Inquiry.run env.elapsed (c.exchange env) c.options c.network c.nameserver.text question ids

def fields (c : Classic) : String :=
  Text.fieldList "ClassicResolver"
    [("nameserver", c.nameserver.fields), ("network", c.network.fields)]
    false

end Classic

end StubResolver
