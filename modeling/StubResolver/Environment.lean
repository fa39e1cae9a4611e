import StubResolver.Error
import StubResolver.Nameserver
import StubResolver.Network
import StubResolver.Octets
import StubResolver.Timestamp
import StubResolver.Url

/-!
What resolving a name takes from outside: connections to nameservers, HTTP requests, the
operating system's view of host names, clocks and random numbers. Each service may change the
state of the outside world, which is the parameter `σ`; whatever is proved for all environments
holds of any network and any peer.
-/

set_option autoImplicit false

namespace StubResolver

/-- One attempt to connect to a nameserver. A timeout of zero stands for none. -/
structure Dial where
  protocol : Protocol
  nameserver : Nameserver
  family : Family
  timeout : Duration
  deriving DecidableEq, Repr

inductive HttpMethod where
  | get | post
  deriving DecidableEq, Repr

structure HttpRequest where
  method : HttpMethod
  url : Url
  headers : List (String × String)
  body : Bytes
  deriving DecidableEq, Repr

/-- Why there is no reply to a request: the host has no address, or none
of them can be connected to. -/
inductive HttpFailure where
  | nameLookup (reason : String)
  | connect (reason : String)
  deriving DecidableEq, Repr

def HttpFailure.text (url : Url) : HttpFailure → String
  | nameLookup reason =>
    url.text ++ ": Dns Failed: resolve dns name '" ++ url.authority ++ "': " ++ reason
  | connect reason => s!"{url.text}: Connection Failed: Connect error: {reason}"

structure HttpReply where
  status : Nat
  reason : String
  /-- What can be read of the body, or why it breaks off. It is looked at under one status only. -/
  body : Except IoError Bytes
  deriving Repr

abbrev Action (σ ε α : Type) := σ → Except ε α × σ

structure Environment (σ : Type) where
  /-- Opens a connected socket. The services below use the one opened last. -/
  dial : Dial → Action σ IoError Unit
  /-- Starts TLS with the peer, under a server name; its certificate is
  verified if the flag is set. -/
  handshake : String → Bool → Action σ IoError Unit
  /-- Sends a datagram and waits for one. -/
  datagram : Bytes → Action σ IoError Bytes
  /-- Writes bytes and reads what the peer sends until it closes. -/
  stream : Bytes → Action σ IoError Bytes
  http : HttpRequest → Action σ HttpFailure HttpReply
  /-- The addresses that the operating system reports for a host name. -/
  hostAddresses : String → Action σ IoError (List IpAddress)
  /-- Time since some fixed moment; it never runs backwards. -/
  elapsed : σ → Duration
  /-- Seconds since the start of 1970. -/
  wallClock : σ → Int
  /-- Identifiers for the queries of one lookup. -/
  queryIds : σ → (Nat → UInt16) × σ
  random : RandomSource σ

def Environment.now {σ : Type} (env : Environment σ) (s : σ) : UInt32 :=
  Timestamp.ofClock (env.wallClock s)

abbrev Task (σ α : Type) := ExceptT Error (StateM σ) α

namespace Task

def ofAction {σ ε α : Type} (wrap : ε → Error) (act : Action σ ε α) : Task σ α := fun s =>
  match act s with
  | (.ok a, s) => (.ok a, s)
  | (.error e, s) => (.error (wrap e), s)

def io {σ α : Type} (act : Action σ IoError α) : Task σ α := ofAction .io act

def get {σ α : Type} (f : σ → α) : Task σ α := fun s => (.ok (f s), s)

def run {σ α : Type} (f : σ → α × σ) : Task σ α := fun s => (.ok (f s).1, (f s).2)

def ofExcept {σ ε α : Type} (wrap : ε → Error) (r : Except ε α) : Task σ α := fun s =>
  match r with
  | .ok a => (.ok a, s)
  | .error e => (.error (wrap e), s)

end Task

end StubResolver
