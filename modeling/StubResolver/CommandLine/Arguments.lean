import StubResolver.Options
import StubResolver.Message.RecordType
import StubResolver.Text.Numeral
import StubResolver.Text.Split
import StubResolver.Text.UpperCase

set_option autoImplicit false

namespace StubResolver

inductive Scheme where
  | udp | tcp | tls | https
  deriving DecidableEq, Repr

def Scheme.address (server : String) : Scheme → String
  | udp => "udp://" ++ server
  | tcp => "tcp://" ++ server
  | tls => "tls://" ++ server
  | https => "https://" ++ server ++ "/dns-query"

inductive Setting where
  | server (address : String)
  | scheme (s : Scheme)
  | name (name : String)
  | type (t : RecordType)
  | resolve
  | verbose
  | json
  | noSummary
  | debug
  | ipv4
  | ipv6
  | insecure
  | ndots (n : Nat)
  | search (suffixes : List String)
  | timeout (seconds : Nat)
  | prefer (p : Preference)
  | tlsHostname (name : String)
  | host (name : String) (addresses : List IpAddress)
  deriving DecidableEq, Repr

inductive Complaint where
  | ndots (text : String)
  | timeout (text : String)
  | family (text : String)
  | flag (text : String)
  | option (text : String)
  | hostEntry (text : String)
  | hostAddress (text : String)
  /-- A record type other than A, where names are resolved to addresses. -/
  | typeWithResolve
  deriving DecidableEq, Repr

namespace Complaint

def message : Complaint → String
  | ndots s => "Invalid ndots value: " ++ s ++ "."
  | timeout s => "Invalid timeout: " ++ s ++ "."
  | family s => "Invalid address family: " ++ s ++ "."
  | flag s => "Invalid flag: +" ++ s ++ "."
  | option s => "Invalid option: -" ++ s ++ "."
  | hostEntry s => "Invalid host entry: " ++ s ++ ", expected NAME=IP[,IP]."
  | hostAddress s => "Invalid IP address in host entry: " ++ s ++ "."
  | typeWithResolve =>
    "+resolve always looks up A records and cannot be combined with a q-type."

end Complaint

inductive Ending where
  | help
  | version
  | invalid (c : Complaint)
  deriving DecidableEq, Repr

namespace Setting

def refuse {α : Type} (c : Complaint) : Except Ending α := .error (.invalid c)

def ofCount (bound : Nat) (setting : Nat → Setting) (complaint : String → Complaint)
    (value : String) :
    Except Ending Setting :=
  match Text.numeral? bound value.toList with
  | some n => .ok (setting n)
  | none => refuse (complaint value)

def ofFamily (value : String) : Except Ending Setting :=
  match String.ofList (value.toList.map Char.toLower) with
  | "ipv4" | "4" => .ok (.prefer .ipv4)
  | "ipv6" | "6" => .ok (.prefer .ipv6)
  | "none" => .ok (.prefer .none)
  | _ => refuse (.family value)

def addressOf (text : List Char) : Except Ending IpAddress :=
  match IpAddress.ofText? (String.ofList text) with
  | some ip => .ok ip
  | none => refuse (.hostAddress (String.ofList text))

def ofHostEntry (value : String) : Except Ending Setting :=
  match Text.splitOnce? '=' value.toList with
  | some (n :: ns, a :: as) => do
    return .host (String.ofList (n :: ns)) (← ((a :: as).splitOn ',').mapM addressOf)
  | _ => refuse (.hostEntry value)

def ofFlag (flag : String) : Except Ending Setting :=
  match flag with
  | "resolve" => .ok .resolve
  | "verbose" => .ok .verbose
  | "json" => .ok .json
  | "no-meta" => .ok .noSummary
  | "debug" => .ok .debug
  | "tcp" => .ok (.scheme .tcp)
  | "tls" | "dot" => .ok (.scheme .tls)
  | "https" | "doh" => .ok (.scheme .https)
  | "ipv4" => .ok .ipv4
  | "ipv6" => .ok .ipv6
  | "insecure" => .ok .insecure
  | _ => refuse (.flag flag)

def ofValuedFlag (flag value : String) : Except Ending Setting :=
  match flag with
  | "ndots" => ofCount 0x10000000000000000 .ndots .ndots value
  | "search" =>
    .ok (.search (((value.toList.splitOn ',').filter fun f => !f.isEmpty).map String.ofList))
  | "timeout" => ofCount 0x10000000000000000 .timeout .timeout value
  | "prefer" => ofFamily value
  | "tls-host" => .ok (.tlsHostname value)
  | "host" => ofHostEntry value
  | _ => refuse (.flag flag)

def ofOption (option : String) : Ending :=
  match option with
  | "h" | "-help" => .help
  | "V" | "-version" => .version
  | _ => .invalid (.option option)

/-- Reads one argument. What is neither a nameserver nor a flag nor a record type is a name. -/
def ofText (text : String) : Except Ending Setting :=
  match text.toList with
  | '@' :: cs => .ok (.server (String.ofList cs))
  | '+' :: cs =>
    match Text.splitOnce? '=' cs with
    | some (flag, value) => ofValuedFlag (String.ofList flag) (String.ofList value)
    | none => ofFlag (String.ofList cs)
  | '-' :: cs => .error (ofOption (String.ofList cs))
  | _ =>
    match RecordType.ofMnemonic? (Text.upperCase text) with
    | some t => .ok (.type t)
    | none => .ok (.name text)

end Setting

structure Arguments where
  /-- The nameserver as given; without one the operating system is asked. -/
  server : Option String
  scheme : Scheme
  name : String
  type : RecordType
  options : Options
  /-- Static entries for `resolve`. -/
  hosts : List (String × List String)
  /-- Resolve to addresses, rather than to look one record type up. -/
  resolve : Bool
  verbose : Bool
  json : Bool
  /-- Whether status, nameserver and time are shown. -/
  summary : Bool
  debug : Bool
  deriving DecidableEq, Repr

namespace Arguments

def default : Arguments :=
  ⟨none, .udp, "example.com", .a, .default, [], false, false, false, true, false⟩

def set (a : Arguments) : Setting → Arguments
  | .server s => { a with server := some s }
  | .scheme s => { a with scheme := s }
  | .name s => { a with name := s }
  | .type t => { a with type := t }
  | .resolve => { a with resolve := true }
  | .verbose => { a with verbose := true }
  | .json => { a with json := true }
  | .noSummary => { a with summary := false }
  | .debug => { a with debug := true }
  | .ipv4 => { a with options := { a.options with ipv4 := true } }
  | .ipv6 => { a with options := { a.options with ipv6 := true } }
  | .insecure => { a with options := { a.options with insecure := true } }
  | .ndots n => { a with options := { a.options with ndots := n } }
  | .search l => { a with options := { a.options with search := l } }
  | .timeout n => { a with options := { a.options with timeout := .ofSeconds n } }
  | .prefer p => { a with options := { a.options with prefer := p } }
  | .tlsHostname s => { a with options := { a.options with tlsHostname := some s } }
  | .host n ips => { a with hosts := a.hosts ++ [(n, ips.map IpAddress.text)] }

def setAll (a : Arguments) (l : List Setting) : Arguments := l.foldl set a

/-- Resolving goes by address records. -/
def check (a : Arguments) : Except Ending Arguments :=
  if a.resolve && a.type != .a then Setting.refuse .typeWithResolve else .ok a

def ofTexts (l : List String) : Except Ending Arguments := do
  check (default.setAll (← l.mapM Setting.ofText))

/-- The address of the nameserver; one without a scheme takes that of the flags. -/
def nameserver (a : Arguments) : Option String :=
  a.server.map fun s => if Text.hasInfix "://".toList s.toList then s else a.scheme.address s

end Arguments

end StubResolver
