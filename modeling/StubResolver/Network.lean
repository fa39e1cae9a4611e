import StubResolver.Options
import StubResolver.Text.FieldList

set_option autoImplicit false

namespace StubResolver

inductive Protocol where
  | udp | tcp
  deriving DecidableEq, Repr

structure Network where
  protocol : Protocol
  family : Family
  tls : Bool
  deriving DecidableEq, Repr

namespace Network

/-- TLS takes a stream, also where none is asked for. -/
def ofOptions (tcp tls : Bool) (o : Options) : Network :=
  ⟨if tcp || tls then .tcp else .udp, Family.ofOptions o, tls⟩

def toTcp (n : Network) : Network := { n with protocol := .tcp }

/-- A stream never has to truncate a reply. -/
def isStream (n : Network) : Bool := n.protocol = .tcp

def text (n : Network) : String :=
  (match n.protocol with | .udp => "udp" | .tcp => "tcp") ++
    (match n.family with | .any => "" | .v4 => "4" | .v6 => "6") ++ (if n.tls then "-tls" else "")

def fields (n : Network) : String :=
  Text.fieldList "Network" [
    ("protocol", match n.protocol with | .udp => "Udp" | .tcp => "Tcp"),
    ("family", n.family.label),
    ("tls", toString n.tls)] true

end Network

end StubResolver
