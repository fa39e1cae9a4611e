set_option autoImplicit false

namespace StubResolver

structure RecordType where
  code : UInt16
  deriving DecidableEq, Repr

namespace RecordType

def a : RecordType := ⟨1⟩
def ns : RecordType := ⟨2⟩
def cname : RecordType := ⟨5⟩
def soa : RecordType := ⟨6⟩
def ptr : RecordType := ⟨12⟩
def hinfo : RecordType := ⟨13⟩
def mx : RecordType := ⟨15⟩
def txt : RecordType := ⟨16⟩
def rp : RecordType := ⟨17⟩
def aaaa : RecordType := ⟨28⟩
def srv : RecordType := ⟨33⟩
def naptr : RecordType := ⟨35⟩
def dname : RecordType := ⟨39⟩
def opt : RecordType := ⟨41⟩

def mnemonics : List (RecordType × String) := [
  (a, "A"), (ns, "NS"), (cname, "CNAME"), (soa, "SOA"), (ptr, "PTR"), (hinfo, "HINFO"), (mx, "MX"),
  (txt, "TXT"), (rp, "RP"), (aaaa, "AAAA"), (⟨29⟩, "LOC"), (srv, "SRV"), (naptr, "NAPTR"),
  (⟨37⟩, "CERT"), (dname, "DNAME"), (opt, "OPT"), (⟨43⟩, "DS"), (⟨44⟩, "SSHFP"), (⟨46⟩, "RRSIG"),
  (⟨47⟩, "NSEC"), (⟨48⟩, "DNSKEY"), (⟨50⟩, "NSEC3"), (⟨51⟩, "NSEC3PARAM"), (⟨52⟩, "TLSA"),
  (⟨61⟩, "OPENPGPKEY"), (⟨257⟩, "CAA")]

def mnemonic? (t : RecordType) : Option String := mnemonics.lookup t

def ofMnemonic? (s : String) : Option RecordType :=
  (mnemonics.find? fun p => p.2 = s).map (·.1)

def text (t : RecordType) : String := (t.mnemonic?).getD s!"TYPE{t.code.toNat}"

end RecordType

end StubResolver
