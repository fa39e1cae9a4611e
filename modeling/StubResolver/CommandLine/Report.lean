import StubResolver.CommandLine.Arguments
import StubResolver.Error
import StubResolver.Response
import StubResolver.Text.Json

set_option autoImplicit false

namespace StubResolver.Report

def lines (l : List String) : String := String.join (l.map (· ++ "\n"))

open Text (Json)

def typeJson (t : RecordType) : Json :=
  match t.mnemonic? with
  | some s => .string s
  | none => .object [("Unknown", .number t.code.toNat)]

def questionJson (q : Question) : Json :=
  .object [("name", .string q.name), ("qtype", typeJson q.type),
    ("qclass", .string q.recordClass.text)]

def answerJson (a : Answer) : Json :=
  .object [("name", .string a.name), ("type", .string a.type), ("class", .string a.recordClass),
    ("ttl", .string a.ttl), ("address", .string a.address), ("status", .string a.status),
    ("rtt", .string a.roundTrip), ("nameserver", .string a.nameserver)]

def authorityJson (a : Authority) : Json :=
  .object [("name", .string a.name), ("type", .string a.type), ("class", .string a.recordClass),
    ("ttl", .string a.ttl), ("mname", .string a.primary), ("status", .string a.status),
    ("rtt", .string a.roundTrip), ("nameserver", .string a.nameserver)]

def responseJson (r : Response) : Json :=
  .object [("questions", .array (r.questions.map questionJson)),
    ("answers", .array (r.answers.map answerJson)),
    ("authorities", .array (r.authorities.map authorityJson))]

structure Row where
  name : String
  ttl : String
  recordClass : String
  type : String
  data : String
  deriving DecidableEq, Repr

def rows (r : Response) : List Row :=
  r.answers.map (fun a => ⟨a.name, a.ttl, a.recordClass, a.type, a.address⟩) ++
    r.authorities.map (fun a => ⟨a.name, a.ttl, a.recordClass, a.type, a.primary⟩)

/-- Width of a column, measured in bytes. It is filled up by characters, so that a cell with a
character of more than one byte widens its column. -/
def width (column : Row → String) (l : List Row) : Nat :=
  l.foldl (fun n r => max n (column r).utf8ByteSize) 0

def rowLine (l : List Row) (r : Row) : String :=
  " ".intercalate [
    Text.padRight (width Row.name l) ' ' r.name,
    Text.padLeft (width Row.ttl l) ' ' r.ttl,
    Text.padRight (width Row.recordClass l) ' ' r.recordClass,
    Text.padRight (width Row.type l) ' ' r.type,
    r.data]

def tableLines (r : Response) : List String :=
  match rows r with
  | [] => ["<empty response>"]
  | l => l.map (rowLine l)

def questionLine (q : Question) : String :=
  "\t" ++ q.name ++ " " ++ q.recordClass.text ++ " " ++ q.type.text

def arrival? (r : Response) : Option Arrival :=
  match r.answers, r.authorities with
  | a :: _, _ => some ⟨a.status, a.roundTrip, a.nameserver⟩
  | [], a :: _ => some ⟨a.status, a.roundTrip, a.nameserver⟩
  | [], [] => none

def summaryLine (r : Response) (elapsed : Duration) : String :=
  match arrival? r with
  | some w => s!"{w.status} from {w.nameserver} in {w.roundTrip} (total {elapsed.millis} ms)"
  | none => s!"no records in {elapsed.millis} ms"

def response (a : Arguments) (r : Response) (elapsed : Duration) : String :=
  if a.json then (responseJson r).text ++ "\n"
  else
    let head :=
      if a.verbose then "Questions:" :: r.questions.map questionLine ++ ["", "Answers:"] else []
    lines (head ++ tableLines r ++ (if a.summary then ["", summaryLine r elapsed] else []))

def addresses (a : Arguments) (l : List String) (elapsed : Duration) : String :=
  if a.json then (Json.array (l.map Json.string)).text ++ "\n"
  else
    lines (l ++
      if a.summary then ["", s!"{l.length} addresses for {a.name} in {elapsed.millis} ms"] else [])

def indented (first further : String) (s : String) : String :=
  first ++ ("\n" ++ further).intercalate ((s.toList.splitOn '\n').map String.ofList)

def numbered (p : String × Nat) : String :=
  indented (Text.padLeft 5 ' ' (toString p.2) ++ ": ") "       " p.1

def causeLines : List String → List String
  | [cause] => [indented "    " "    " cause]
  | causes => causes.zipIdx.map numbered

def failure (context : String) (e : Error) : String :=
  lines (["Error: " ++ context, "", "Caused by:"] ++ causeLines (e.message :: e.causes))

end StubResolver.Report
