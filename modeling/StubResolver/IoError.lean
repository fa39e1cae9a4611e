set_option autoImplicit false

namespace StubResolver

inductive IoKind where
  | addrNotAvailable | connectionRefused | invalidData | invalidInput | networkUnreachable
  | notConnected | notFound | timedOut | unexpectedEof | wouldBlock | uncategorized | other
  deriving DecidableEq, Repr

structure IoError where
  kind : IoKind
  text : String
  deriving DecidableEq, Repr

namespace IoError

def endOfStream : IoError := ⟨.unexpectedEof, "failed to fill whole buffer"⟩

def networkUnreachable : IoError := ⟨.networkUnreachable, "Network is unreachable (os error 101)"⟩

def addressNotAvailable : IoError :=
  ⟨.addrNotAvailable, "Cannot assign requested address (os error 99)"⟩

def connectionRefused : IoError := ⟨.connectionRefused, "Connection refused (os error 111)"⟩

def receiveTimeout : IoError := ⟨.wouldBlock, "Resource temporarily unavailable (os error 11)"⟩

def unknownHost : IoError :=
  ⟨.uncategorized, "failed to lookup address information: Name or service not known"⟩

def unknownIssuer : IoError :=
  ⟨.invalidData, "invalid peer certificate contents: invalid peer certificate: UnknownIssuer"⟩

end IoError

end StubResolver
