import StubResolver.IpAddress

set_option autoImplicit false

namespace StubResolver.ServerName

def validLabel (l : List Char) : Bool :=
  !l.isEmpty && l.length ≤ 63 && l.all (fun c => c.isAlphanum || c = '_' || c = '-') &&
    l.head? != some '-' && l.getLast? != some '-'

/-- One dot may stand at the end. -/
def validHost (cs : List Char) : Bool :=
  let labels := (if cs.getLast? = some '.' then cs.dropLast else cs).splitOn '.'
  cs.length ≤ 253 && labels.all validLabel && !(labels.getLast?.getD []).all Char.isDigit

def valid (s : String) : Bool := validHost s.toList || (IpAddress.ofText? s).isSome

end StubResolver.ServerName
