import StubResolver.Transport.Classic
import StubResolver.Transport.Encrypted
import StubResolver.Transport.Https
import StubResolver.Transport.OperatingSystem

set_option autoImplicit false

namespace StubResolver

inductive Transport (σ : Type) where
  | classic (c : Classic)
  | https (h : Https)
  /-- With the certificate in use. -/
  | encrypted (e : Encrypted) (certificate : Option DnsCrypt.Certificate)
  | operatingSystem (s : OperatingSystem)
  | custom (answer : Question → Task σ Response)

namespace Transport

variable {σ : Type}

def label : Transport σ → String
  | classic _ => "classic"
  | https _ => "doh"
  | encrypted _ _ => "dnscrypt"
  | operatingSystem _ => "system"
  | custom _ => "custom"

def fields : Transport σ → String
  | classic c => c.fields
  | https h => h.fields
  | encrypted e _ => e.fields
  | operatingSystem s => s.fields
  | custom _ => "Custom(..)"

def still {α : Type} (t : Transport σ) (act : Task σ α) : Task (Transport σ × σ) α := fun s =>
  let r := act s.2
  (r.1, (t, r.2))

/-- Answers one question. Only the certificate of an encrypted transport changes by it. -/
def lookup (env : Environment σ) (question : Question) : Task (Transport σ × σ) Response := fun s =>
  match s.1 with
  | t@(classic c) => t.still (c.lookup env question) s
  | t@(https h) => t.still (h.lookup env question) s
  | encrypted e k =>
    let r := e.lookup env question (k, s.2)
    (r.1, (encrypted e r.2.1, r.2.2))
  | t@(operatingSystem o) => t.still (o.lookup env question) s
  | t@(custom answer) => t.still (answer question) s

end Transport

inductive ServerKind where
  | udp | tcp | tls | https | dnsCrypt
  /-- No scheme. -/
  | system
  /-- A scheme of no transport. -/
  | unknown
  deriving DecidableEq, Repr

namespace ServerKind

def schemes : List (String × ServerKind) := [
  ("udp://", udp), ("tcp://", tcp), ("tls://", tls), ("https://", https), ("sdns://", dnsCrypt)]

def classify (address : String) : ServerKind :=
  match schemes.find? fun p => (Text.stripIgnoringCase? p.1.toList address.toList).isSome with
  | some p => p.2
  | none => if Text.hasInfix "://".toList address.toList then unknown else system

end ServerKind

end StubResolver
