import StubResolver.Duration
import StubResolver.IpAddress

set_option autoImplicit false

namespace StubResolver

/-- The family that the system resolver keeps to if it reports any address of it. -/
inductive Preference where
  | none | ipv4 | ipv6
  deriving DecidableEq, Repr

inductive Family where
  | any | v4 | v6
  deriving DecidableEq, Repr

structure Options where
  ipv4 : Bool
  ipv6 : Bool
  search : List String
  /-- A relative name with more labels than this is tried as it is first. -/
  ndots : Nat
  prefer : Preference
  /-- Zero stands for no limit. -/
  timeout : Duration
  insecure : Bool
  tlsHostname : Option String
  deriving DecidableEq, Repr

def Options.default : Options := ⟨false, false, [], 1, .none, .ofSeconds 60, false, Option.none⟩

namespace Family

/-- Restricted only if exactly one of the two settings is on. -/
def ofOptions (o : Options) : Family :=
  match o.ipv4, o.ipv6 with
  | true, false => v4
  | false, true => v6
  | _, _ => any

def label : Family → String
  | any => "Any"
  | v4 => "V4"
  | v6 => "V6"

def holds : Family → IpAddress → Bool
  | any, _ => true
  | v4, ip => ip.isV4
  | v6, ip => ip.isV6

end Family

end StubResolver
