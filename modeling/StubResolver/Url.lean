import StubResolver.HostName
import StubResolver.IpAddress

set_option autoImplicit false

namespace StubResolver

structure Url where
  /-- User and password with the sign that ends them; empty if there are none. -/
  userInfo : String
  host : String
  port : UInt16
  path : String
  query : Option String
  fragment : Option String
  deriving DecidableEq, Repr

namespace Url

inductive Error where
  | emptyHost | invalidPort | invalidIpv4 | invalidIpv6 | invalidHostName
  deriving DecidableEq, Repr

def Error.label : Error → String
  | emptyHost => "EmptyHost"
  | invalidPort => "InvalidPort"
  | invalidIpv4 => "InvalidIpv4Address"
  | invalidIpv6 => "InvalidIpv6Address"
  | invalidHostName => "IdnaError"

def Error.message : Error → String
  | emptyHost => "empty host"
  | invalidPort => "invalid port number"
  | invalidIpv4 => "invalid IPv4 address"
  | invalidIpv6 => "invalid IPv6 address"
  | invalidHostName => "invalid international domain name"

def defaultPort : UInt16 := 443

/-- Writes the characters of a set, controls and all that is not ASCII as their bytes. -/
def percentEncode (set : String) (cs : List Char) : String :=
  String.join (cs.map fun c =>
    if 0x20 ≤ c.toNat ∧ c.toNat < 0x7f ∧ !set.toList.contains c then c.toString
    else String.join ((Bytes.ofString c.toString).map fun b => "%" ++ Text.upperHex [b]))

def fragmentSet : String := " \"<>\x60"

def querySet : String := " \"#<>'"

def pathSet : String := fragmentSet ++ "#?\x7b\x7d"

def userSet : String := pathSet ++ "/:;=@[\\]^|"

def percentDecode : Bytes → Bytes
  | a :: b :: c :: r =>
    match a == 0x25, Text.hexDigit? (Char.ofNat b.toNat), Text.hexDigit? (Char.ofNat c.toNat) with
    | true, some x, some y => UInt8.ofNat (16 * x + y) :: percentDecode r
    | _, _, _ => a :: percentDecode (b :: c :: r)
  | r => r

def number? (cs : List Char) : Option Nat :=
  match cs with
  | [] => none
  | '0' :: 'x' :: r => Text.digits? Text.hexDigit? 16 0 r
  | '0' :: 'X' :: r => Text.digits? Text.hexDigit? 16 0 r
  | '0' :: r => Text.digits? (fun c => (Text.decimalDigit? c).filter (· < 8)) 8 0 r
  | r => Text.digits? Text.decimalDigit? 10 0 r

def withoutEmptyEnd (parts : List (List Char)) : List (List Char) :=
  if 1 < parts.length && parts.getLast? = some [] then parts.dropLast else parts

/-- Whether a host has to be read as an IPv4 address: its last part is a number. -/
def endsInNumber (cs : List Char) : Bool :=
  match (withoutEmptyEnd (cs.splitOn '.')).getLast? with
  | none => false
  | some l =>
    (!l.isEmpty && l.all Char.isDigit) ||
      (match l with
        | '0' :: x :: r => (x = 'x' || x = 'X') && r.all fun c => (Text.hexDigit? c).isSome
        | _ => false)

/-- One to four numbers, the last of which fills all bytes that are left. -/
def ipv4? (cs : List Char) : Option Ipv4 := do
  let ns ← (withoutEmptyEnd (cs.splitOn '.')).mapM number?
  let n := ns.length
  let last ← ns.getLast?
  if 4 < n || ns.dropLast.any (255 < ·) || Nat.pow 256 (5 - n) ≤ last then none
  else Ipv4.ofBytes? (ns.dropLast.map UInt8.ofNat ++ Bytes.ofNatBE (5 - n) last)

def forbidden (c : Char) : Bool :=
  c.toNat ≤ 0x20 || c.toNat = 0x7f || "%#/:<>?@[\\]^|".toList.contains c

/-- Reads a name whose ASCII form is at hand; it may turn out to be an IPv4 address. -/
def readAsciiHost (cs : List Char) : Except Error String :=
  if cs.isEmpty then .error .emptyHost
  else if cs.any forbidden then .error .invalidHostName
  else if endsInNumber cs then
    match ipv4? cs with
    | some ip => .ok ip.text
    | none => .error .invalidIpv4
  else .ok (String.ofList cs)

def readHost (cs : List Char) : Except Error String :=
  match cs with
  | [] => .error .emptyHost
  | '[' :: r =>
    match (if r.getLast? = some ']' then Ipv6.ofText? r.dropLast else none) with
    | some ip => .ok ("[" ++ ip.groupText ++ "]")
    | none => .error .invalidIpv6
  | cs =>
    match HostName.toAscii? (Text.decodeLossy (percentDecode (Bytes.ofString (String.ofList cs))))
      with
    | some ascii => readAsciiHost ascii
    | none => .error .invalidHostName

/-- Splits a port off the host, at the first colon that is not inside brackets. -/
def hostAndPort (inside : Bool) : List Char → List Char × Option (List Char)
  | [] => ([], none)
  | c :: cs =>
    if c = ':' && !inside then ([], some cs)
    else
      let (host, port) := hostAndPort (c = '[' || (inside && c != ']')) cs
      (c :: host, port)

def readPort (cs : Option (List Char)) : Except Error UInt16 :=
  match cs with
  | none | some [] => .ok defaultPort
  | some ds =>
    match (Text.digits? Text.decimalDigit? 10 0 ds).filter (· < 65536) with
    | some n => .ok (UInt16.ofNat n)
    | none => .error .invalidPort

def isDot (s : List Char) : Bool := ["." , "%2e"].contains (String.ofList (s.map Char.toLower))

def isDoubleDot (s : List Char) : Bool :=
  ["..", ".%2e", "%2e.", "%2e%2e"].contains (String.ofList (s.map Char.toLower))

/-- A letter with a colon or a bar names a drive. -/
def isDrive (s : String) : Bool :=
  match s.toList with
  | [c, d] => c.isAlpha && (d = ':' || d = '|')
  | _ => false

def parent : List String → List String
  | [] => []
  | s :: kept => if isDrive s then s :: kept else kept

/-- Resolves the dot segments; `kept` are the segments before, the last one first. -/
def segments : List String → List (List Char) → List String
  | kept, [] => kept.reverse
  | kept, [s] =>
    if isDoubleDot s then ("" :: parent kept).reverse
    else if isDot s then ("" :: kept).reverse
    else (percentEncode pathSet s :: kept).reverse
  | kept, s :: rest =>
    if isDoubleDot s then segments (parent kept) rest
    else if isDot s then segments kept rest
    else segments (percentEncode pathSet s :: kept) rest

def cut (c : Char) (cs : List Char) : List Char × Option (List Char) :=
  match Text.splitOnce? c cs with
  | some (a, b) => (a, some b)
  | none => (cs, none)

def userInfoText (cs : List Char) : String :=
  let (user, password) := cut ':' cs
  let shown := percentEncode userSet user ++
    (match password with
      | some (c :: r) => ":" ++ percentEncode userSet (c :: r)
      | _ => "")
  if shown.isEmpty then "" else shown ++ "@"

def ofRest (cs : List Char) : Except Error Url := do
  let (cs, fragment) := cut '#' cs
  let (cs, query) := cut '?' cs
  let cs := (cs.map fun c => if c = '\\' then '/' else c).dropWhile (· = '/')
  let authority := cs.takeWhile (· != '/')
  let path := cs.drop (authority.length + 1)
  let hostText := (authority.reverse.takeWhile (· != '@')).reverse
  let user := authority.take (authority.length - hostText.length - 1)
  let (h, p) := hostAndPort false hostText
  let h ← readHost h
  let p ← readPort p
  return ⟨userInfoText user, h, p, "/" ++ "/".intercalate (segments [] (path.splitOn '/')),
    query.map (percentEncode querySet), fragment.map (percentEncode fragmentSet)⟩

def trimmed (cs : List Char) : List Char := (cs.reverse.dropWhile fun c => c.toNat ≤ 0x20).reverse

/-- Reads a text that starts with `https:`, in any case. -/
def ofText (s : String) : Except Error Url :=
  ofRest (trimmed (s.toList.drop 6))

/-- Host and port, the port also if it is the default one. -/
def authority (u : Url) : String := s!"{u.host}:{u.port.toNat}"

def target (u : Url) : String :=
  u.path ++ (match u.query with | some q => "?" ++ q | none => "")

def text (u : Url) : String :=
  "https://" ++ u.userInfo ++ u.host ++
    (if u.port = defaultPort then "" else s!":{u.port.toNat}") ++
    u.target ++ (match u.fragment with | some f => "#" ++ f | none => "")

def withParameter (u : Url) (name value : String) : Url :=
  let pair := name ++ "=" ++ value
  { u with query := some (match u.query with
      | none => pair
      | some "" => pair
      | some q => q ++ "&" ++ pair) }

end Url

end StubResolver
