import StubResolver.Message.CodecError

set_option autoImplicit false

namespace StubResolver

structure Rcode where
  code : Nat
  deriving DecidableEq, Repr

namespace Rcode

def noError : Rcode := ⟨0⟩

def mnemonics : List (Rcode × String) := [
  (noError, "NOERROR"), (⟨1⟩, "FORMERR"), (⟨2⟩, "SERVFAIL"), (⟨3⟩, "NXDOMAIN"), (⟨4⟩, "NOTIMP"),
  (⟨5⟩, "REFUSED"), (⟨6⟩, "YXDOMAIN"), (⟨7⟩, "YXRRSET"), (⟨8⟩, "NXRRSET"), (⟨9⟩, "NOTAUTH"),
  (⟨10⟩, "NOTZONE"), (⟨11⟩, "DSOTYPENI"), (⟨16⟩, "BADVERSBADSIG"), (⟨17⟩, "BADKEY"),
  (⟨18⟩, "BADTIME"), (⟨19⟩, "BADMODE"), (⟨20⟩, "BADNAME"), (⟨21⟩, "BADALG"), (⟨22⟩, "BADTRUNC"),
  (⟨23⟩, "BADCOOKIE")]

def ofCode (n : Nat) : Except CodecError Rcode :=
  if (mnemonics.lookup ⟨n⟩).isSome then .ok ⟨n⟩ else .error (.rcode n)

def text (r : Rcode) : String := (mnemonics.lookup r).getD ""

/-- The code that a header code and a non-zero extension byte make up together. -/
def extend (r : Rcode) (extension : UInt8) : Except CodecError Rcode :=
  if extension = 0 then .ok r else ofCode (extension.toNat * 16 + r.code % 16)

end Rcode

end StubResolver
