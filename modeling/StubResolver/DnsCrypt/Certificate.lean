import StubResolver.Crypto.Ed25519
import StubResolver.DnsCrypt.Error
import StubResolver.Octets
import StubResolver.Timestamp

set_option autoImplicit false

namespace StubResolver.DnsCrypt

inductive Construction where
  | undefined | xSalsa20Poly1305 | xChaCha20Poly1305
  deriving DecidableEq, Repr

namespace Construction

def code : Construction → UInt16
  | undefined => 0
  | xSalsa20Poly1305 => 1
  | xChaCha20Poly1305 => 2

def ofCode (n : UInt16) : Except Error Construction :=
  if n = 1 then .ok xSalsa20Poly1305
  else if n = 2 then .ok xChaCha20Poly1305
  else .error (.unsupportedConstruction n)

/-- Higher is better. -/
def preference : Construction → Nat
  | undefined => 0
  | xSalsa20Poly1305 => 1
  | xChaCha20Poly1305 => 2

def text : Construction → String
  | undefined => "Undefined"
  | xSalsa20Poly1305 => "XSalsa20Poly1305"
  | xChaCha20Poly1305 => "XChaCha20Poly1305"

end Construction

structure Certificate where
  serial : UInt32
  construction : Construction
  signature : Octets 64
  resolverKey : Octets 32
  /-- Known to the operator of the resolver only; zero in a certificate that was received. -/
  resolverSecret : Octets 32
  clientMagic : Octets 8
  notBefore : UInt32
  /-- The last second of the window. -/
  notAfter : UInt32
  deriving DecidableEq, Repr

namespace Certificate

def magic : Bytes := Bytes.ofString "DNSC"

def size : Nat := 124

/-- Whether the window is not empty and holds the time `t`. -/
def validAt (c : Certificate) (t : UInt32) : Bool :=
  c.notBefore < c.notAfter && c.notBefore ≤ t && t ≤ c.notAfter

def signed (c : Certificate) : Bytes :=
  c.resolverKey.bytes ++ c.clientMagic.bytes ++ Bytes.ofUInt32 c.serial ++
    Bytes.ofUInt32 c.notBefore ++
    Bytes.ofUInt32 c.notAfter

def encode (c : Certificate) (now : UInt32) : Except Error Bytes :=
  if c.construction = .undefined then .error (.unsupportedConstruction c.construction.code)
  else if !c.validAt now then .error (.invalidValidityWindow c.notBefore c.notAfter)
  else .ok (magic ++ Bytes.ofUInt16 c.construction.code ++ [0, 0] ++ c.signature.bytes ++ c.signed)

/-- Reads a certificate off the front of `b`. Neither signature nor window are checked. -/
def decode (b : Bytes) : Except Error Certificate :=
  if h : b.length < size then .error (.tooShort b.length)
  else if b.take 4 ≠ magic then .error .badMagic
  else do
    have hb : 124 ≤ b.length := Nat.le_of_not_lt h
    let construction ← Construction.ofCode (Bytes.toUInt16 ((b.drop 4).take 2))
    return {
      serial := Bytes.toUInt32 ((b.drop 112).take 4)
      construction
      signature := .slice b 8 64 (by omega)
      resolverKey := .slice b 72 32 (by omega)
      resolverSecret := .zero 32
      clientMagic := .slice b 104 8 (by omega)
      notBefore := Bytes.toUInt32 ((b.drop 116).take 4)
      notAfter := Bytes.toUInt32 ((b.drop 120).take 4) }

def signatureHolds (c : Certificate) (key : Bytes) : Bool :=
  Ed25519.verify key c.signed c.signature.bytes

/-- Checks the signature first, then the window. -/
def verify (c : Certificate) (key : Bytes) (t : UInt32) : Except Error Unit :=
  if !c.signatureHolds key then .error .invalidSignature
  else if !c.validAt t then .error (.invalidValidityWindow c.notBefore c.notAfter)
  else .ok ()

def sign (c : Certificate) (seed : Octets 32) : Certificate :=
  { c with signature := ⟨Ed25519.sign seed.bytes c.signed, Ed25519.length_sign _ _⟩ }

def keyOf (secret : Octets 32) : Octets 32 :=
  ⟨Curve25519.publicKey secret.bytes, Curve25519.length_publicKey _⟩

def generate {σ : Type} (random : RandomSource σ) (serial : UInt32) (construction : Construction)
    (notBefore notAfter : UInt32) (s : σ) : Certificate × σ :=
  let (secret, s) := random 32 s
  let key := keyOf secret
  ({ serial, construction, signature := .zero 64, resolverKey := key, resolverSecret := secret,
     clientMagic := .slice key.bytes 0 8 (by simp [key.length_bytes]), notBefore, notAfter }, s)

def text (c : Certificate) : String :=
  s!"Certificate serial={c.serial} not-before={Timestamp.text c.notBefore} " ++
    s!"not-after={Timestamp.text c.notAfter} construction={c.construction.text}"

/-- What makes one certificate better than another: construction, then serial
number, then end of validity. -/
def rank (c : Certificate) : Nat × Nat × Nat :=
  (c.construction.preference, c.serial.toNat, c.notAfter.toNat)

def rankLe (a b : Nat × Nat × Nat) : Bool :=
  a.1 < b.1 || (a.1 = b.1 && (a.2.1 < b.2.1 || (a.2.1 = b.2.1 && a.2.2 ≤ b.2.2)))

def better (best : Option Certificate) (c : Certificate) : Option Certificate :=
  match best with
  | none => some c
  | some b => if rankLe b.rank c.rank then some c else some b

def acceptable (key : Bytes) (t : UInt32) (c : Certificate) : Bool :=
  match c.verify key t with
  | .ok () => true
  | .error _ => false

/-- The best of the certificates that verify, the last of several with one rank. -/
def selectBest (cs : List Certificate) (key : Bytes) (t : UInt32) : Option Certificate :=
  (cs.filter (acceptable key t)).foldl better none

end Certificate

end StubResolver.DnsCrypt
