import StubResolver.DnsCrypt.Publication
import StubResolver.DnsCrypt.Session
import StubResolver.DnsCrypt.Stamp
import StubResolver.Exchange
import StubResolver.Inquiry

set_option autoImplicit false

namespace StubResolver

structure Encrypted where
  stamp : DnsCrypt.Stamp
  nameserver : Nameserver
  network : Network
  keys : DnsCrypt.ClientKeys
  options : Options
  deriving DecidableEq, Repr

namespace Encrypted

open DnsCrypt (Certificate ClientKeys)

def defaultPort : UInt16 := 443

def ofStamp (s : String) : Except Error (DnsCrypt.Stamp × Nameserver) :=
  match DnsCrypt.Stamp.ofText s with
  | .error e => .error (.config s!"invalid DNSCrypt stamp: {e.message}")
  | .ok stamp =>
    match Nameserver.ofText? stamp.address defaultPort with
    | none => .error (.config (Nameserver.invalid stamp.address))
    | some ns => .ok (stamp, ns)

abbrev State (σ : Type) := Option Certificate × σ

variable {σ : Type} (env : Environment σ)

def ofText (s : String) (tcp : Bool) (o : Options) : Task σ Encrypted := do
  let (stamp, ns) ← Task.ofExcept id (ofStamp s)
  let keys ← Task.run (ClientKeys.generate env.random)
  return ⟨stamp, ns, Network.ofOptions tcp false o, keys, o⟩

def lift {σ α : Type} (t : Task σ α) : Task (State σ) α := fun s =>
  let r := t s.2
  (r.1, (s.1, r.2))

variable (e : Encrypted)

def send (network : Network) (packet : Bytes) : Task σ Bytes :=
  if network.isStream then Exchange.tcp env e.nameserver network.family e.options.timeout packet
  else Exchange.udp env e.nameserver network.family e.options.timeout packet

def askCertificates (query : Query) (network : Network) : Task σ (Bool × List Bytes) := do
  let reply ← e.send env network query.encode
  let r ← Task.ofExcept id (Publication.read reply)
  if r.id != query.id then throw .idMismatch
  return (r.truncated, r.texts)

def plainNetwork : Network := ⟨.udp, Family.ofOptions e.options, false⟩

/-- The texts of the certificates that the resolver publishes; over TCP if
they do not fit a datagram. -/
def published : Task σ (List Bytes) := do
  let name ← Task.ofExcept .codec (Name.ofText e.stamp.providerName)
  let ids ← Task.run env.queryIds
  let query : Query := ⟨ids 0, ⟨name, .txt, .internet⟩⟩
  let (truncated, texts) ← e.askCertificates env query e.plainNetwork
  if !truncated then return texts
  let (truncated, texts) ← e.askCertificates env query e.plainNetwork.toTcp
  if truncated then throw .truncated
  return texts

def fetchCertificate : Task σ Certificate := do
  let texts ← e.published env
  let now ← Task.get env.now
  let certificates := texts.filterMap fun t => (Certificate.decode t).toOption
  match Certificate.selectBest certificates e.stamp.providerKey.bytes now with
  | some c => return c
  | none => throw (.dnsCrypt .noValidCertificate)

/-- The certificate in use, if it is valid now, or else a new one. -/
def certificate : Task (State σ) Certificate := fun s =>
  match s.1.filter fun c => c.validAt (env.now s.2) with
  | some c => (.ok c, s)
  | none =>
    match e.fetchCertificate env s.2 with
    | (.ok c, outside) => (.ok c, (some c, outside))
    | (.error err, outside) => (.error err, (s.1, outside))

def forgetCertificate : Task (State σ) Unit := fun s => (.ok (), (none, s.2))

/-- Sends one message encrypted; a response that does not decrypt puts
the certificate out of use. -/
def exchange (c : Certificate) (network : Network) (message : Bytes) : Task (State σ) Bytes := do
  let (packet, session) ← lift
    (Task.ofAction .dnsCrypt (DnsCrypt.encryptQuery env.random c e.keys message))
  let reply ← lift (e.send env network packet)
  match session.decryptResponse reply with
  | .ok message => return message
  | .error err =>
    forgetCertificate
    throw (.dnsCrypt err)

def lookup (question : Question) : Task (State σ) Response := do
  let c ← e.certificate env
  let ids ← lift (Task.run env.queryIds)
  Inquiry.run (fun s => env.elapsed s.2) (e.exchange env c) e.options e.network e.nameserver.text
    question ids

end Encrypted

namespace DnsCrypt.Stamp

def fieldText (s : Stamp) : String :=
  Text.fieldList "ServerStamp"
    [("props", toString s.props.toNat), ("server_addr", Text.quoted s.address),
    ("provider_pk", Text.sequence (s.providerKey.bytes.map fun b => toString b.toNat)),
    ("provider_name", Text.quoted s.providerName)] true

end DnsCrypt.Stamp

def Encrypted.fields (e : Encrypted) : String :=
  Text.fieldList "DnsCryptResolver"
    [("stamp", e.stamp.fieldText), ("nameserver", e.nameserver.fields),
    ("network", e.network.fields)] false

end StubResolver
