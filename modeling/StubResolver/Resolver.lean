import StubResolver.Cache
import StubResolver.Transport

/-!
Resolving names to addresses. Static entries come first, then what was resolved before,
then the transport; an alias is followed to its target, up to a limit. Only the result
for the name asked for is kept.
-/

set_option autoImplicit false

namespace StubResolver

structure Resolver (σ : Type) where
  options : Options
  transport : Transport σ
  cache : Cache (List String)
  /-- Static entries, matched exactly. -/
  hosts : List (String × List String)

namespace Chase

variable {σ : Type}

def maxAliases : Nat := 8

inductive Found where
  | addresses (l : List String)
  | alias (target : String)
  deriving DecidableEq, Repr

def ofResponse (name : String) (r : Response) : Except Error Found :=
  match r.answers with
  | [] => .error (.noAnswers name)
  | first :: rest =>
    if first.type = RecordType.cname.text then .ok (.alias first.address)
    else .ok (.addresses ((first :: rest).map Answer.address))

/-- The state of a chase: the cache, and whatever the lookup changes. -/
abbrev State (σ : Type) := Cache (List String) × σ

def ask (lookup : Question → Task σ Response) (name : String) : Task (State σ) Found := fun s =>
  match lookup (.internet name .a) s.2 with
  | (.error e, t) => (.error e, (s.1, t))
  | (.ok r, t) => (ofResponse name r, (s.1, t))

/-- What is known of `name` without asking: its static entry, or what the cache
holds under the qualified name. -/
def known (clock : σ → Instant) (hosts : List (String × List String))
    (name : String) (s : State σ) :
    Option (List String) × State σ :=
  match hosts.lookup name with
  | some l => (some l, s)
  | none =>
    let (found, c) := s.1.get (qualify name) (clock s.2)
    (found, (c, s.2))

/-- Asks for a name that is not known, and for the targets of aliases up to a number of them. -/
def follow (lookup : Question → Task σ Response) (clock : σ → Instant)
    (hosts : List (String × List String)) : Nat → String → Task (State σ) (List String)
  | aliases, name => fun s =>
    match ask lookup (qualify name) s with
    | (.error e, s) => (.error e, s)
    | (.ok (.addresses l), s) => (.ok l, s)
    | (.ok (.alias target), s) =>
      match aliases with
      | 0 => (.error (.cnameChainTooLong (qualify name)), s)
      | n + 1 =>
        match known clock hosts target s with
        | (some l, s) => (.ok l, s)
        | (none, s) => follow lookup clock hosts n target s

/-- The addresses of `name`. What the transport was asked for goes into the
cache, under the name asked for. -/
def resolve (lookup : Question → Task σ Response) (clock : σ → Instant)
    (hosts : List (String × List String)) (name : String) : Task (State σ) (List String) := fun s =>
  match known clock hosts name s with
  | (some l, s) => (.ok l, s)
  | (none, s) =>
    match follow lookup clock hosts maxAliases name s with
    | (.error e, s) => (.error e, s)
    | (.ok l, s) => (.ok l, (s.1.set (qualify name) (some l) (clock s.2), s.2))

end Chase

namespace Resolver

variable {σ : Type}

def defaultExpiration : Duration := .ofSeconds 3600

def ofOptions (o : Options) : Resolver σ :=
  ⟨o, .operatingSystem ⟨o.prefer⟩, .empty defaultExpiration, []⟩

/-- Adds a static entry, in place of an earlier one of the same name. -/
def withHost (r : Resolver σ) (name : String) (addresses : List String) : Resolver σ :=
  { r with hosts := (name, addresses) :: r.hosts.filter (·.1 != name) }

def withExpiration (r : Resolver σ) (d : Duration) : Resolver σ := { r with cache := .empty d }

def withTransport (r : Resolver σ) (t : Transport σ) : Resolver σ := { r with transport := t }

def transportFor (env : Environment σ) (o : Options) (address : String) :
    ServerKind → Task σ (Transport σ)
  | .udp => do return .classic (← Task.ofExcept id (Classic.ofAddress address false false o))
  | .tcp => do return .classic (← Task.ofExcept id (Classic.ofAddress address true false o))
  | .tls => do return .classic (← Task.ofExcept id (Classic.ofAddress address true true o))
  | .https => do return .https (← Task.ofExcept id (Https.ofUrl address o))
  | .dnsCrypt => do return .encrypted (← Encrypted.ofText env address true o) none
  | .system | .unknown => return .operatingSystem ⟨o.prefer⟩

/-- Selects the transport by the scheme of an address. An unknown scheme selects the operating
system and is an error too; after any other error the transport is the one before. -/
def setServer (env : Environment σ) (address : String) : Task (Resolver σ × σ) Unit := fun (r, s) =>
  let kind := ServerKind.classify address
  match transportFor env r.options address kind s with
  | (.error e, s) => (.error e, (r, s))
  | (.ok t, s) =>
    (if kind = .unknown then .error (.unknownScheme address) else .ok (), (r.withTransport t, s))

def lookup (env : Environment σ) (question : Question) :
    Task (Resolver σ × σ) Response := fun (r, s) =>
  let (result, t, s) := Transport.lookup env question (r.transport, s)
  (result, (r.withTransport t, s))

def resolve (env : Environment σ) (name : String) :
    Task (Resolver σ × σ) (List String) := fun (r, s) =>
  let (result, cache, transport, s) :=
    Chase.resolve (Transport.lookup env) (fun t => env.elapsed t.2) r.hosts name
      (r.cache, r.transport, s)
  (result, ({ r with cache, transport }, s))

end Resolver

namespace Options

def fields (o : Options) : String :=
  Text.fieldList "ResolverOptions" [
    ("use_ipv4", toString o.ipv4), ("use_ipv6", toString o.ipv6),
    ("search_list", Text.quotedList o.search), ("ndots", toString o.ndots),
    ("prefer", o.prefer.label), ("timeout", o.timeout.text),
    ("insecure_skip_verify", toString o.insecure),
    ("tls_hostname", Text.optional (o.tlsHostname.map Text.quoted))] false

end Options

namespace Resolver

variable {σ : Type}

def hostFields (hosts : List (String × List String)) : String :=
  "\x7b" ++ ", ".intercalate (hosts.map fun p => Text.quoted p.1 ++ ": " ++ Text.quotedList p.2) ++
    "\x7d"

def fields (r : Resolver σ) : String :=
  Text.fieldList "Resolver" [("options", r.options.fields), ("transport", r.transport.fields),
    ("cache", r.cache.fields), ("hosts", hostFields r.hosts)] true

end Resolver

end StubResolver
