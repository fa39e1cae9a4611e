import StubResolver.CommandLine.Report
import StubResolver.CommandLine.Usage
import StubResolver.Resolver

set_option autoImplicit false

namespace StubResolver

structure Outcome where
  exitCode : Nat
  output : String
  diagnostics : String
  deriving DecidableEq, Repr

namespace Outcome

def success (output : String) : Outcome := ⟨0, output, ""⟩

def failed (diagnostics : String) : Outcome := ⟨1, "", diagnostics⟩

def after (said : String) (o : Outcome) : Outcome := { o with diagnostics := said ++ o.diagnostics }

end Outcome

def Ending.outcome : Ending → Outcome
  | help => .success Usage.help
  | version => .success Usage.version
  | invalid c => .failed (c.message ++ "\n")

namespace CommandLine

variable {σ : Type} (env : Environment σ)

def resolver (a : Arguments) : Resolver σ :=
  a.hosts.foldl (fun r p => r.withHost p.1 p.2) (.ofOptions a.options)

/-- Installs the nameserver; the result is what there is to be said about it. -/
def install (a : Arguments) : Task (Resolver σ × σ) String := fun s =>
  match a.nameserver with
  | none => (.ok "", s)
  | some address =>
    match Resolver.setServer env address s with
    | (.ok (), s) => (.ok "", s)
    | (.error (.unknownScheme address), s) =>
      (.ok ((Error.unknownScheme address).message ++ "\n"), s)
    | (.error e, s) => (.error e, s)

def ask (a : Arguments) : Task (Resolver σ × σ) String := fun s =>
  let start := env.elapsed s.2
  let elapsed (s : Resolver σ × σ) : Duration := ⟨(env.elapsed s.2).nanos - start.nanos⟩
  if a.resolve then
    let (result, s) := Resolver.resolve env a.name s
    (result.map fun l => Report.addresses a l (elapsed s), s)
  else
    let (result, s) := Resolver.lookup env (.internet a.name a.type) s
    (result.map fun r => Report.response a r (elapsed s), s)

def unusable (a : Arguments) : String := "Could not use nameserver " ++ a.nameserver.getD "" ++ "."

def unanswered (a : Arguments) : String :=
  if a.resolve then "Could not resolve " ++ a.name ++ "."
  else "Lookup of " ++ a.name ++ " " ++ a.type.text ++ " failed."

def perform (a : Arguments) (s : σ) : Outcome × σ :=
  match install env a (resolver a, s) with
  | (.error e, s) => (.failed (Report.failure (unusable a) e), s.2)
  | (.ok said, s) =>
    match ask env a s with
    | (.ok output, s) => ((Outcome.success output).after said, s.2)
    | (.error e, s) => ((Outcome.failed (Report.failure (unanswered a) e)).after said, s.2)

def run (texts : List String) (s : σ) : Outcome × σ :=
  match Arguments.ofTexts texts with
  | .error e => (e.outcome, s)
  | .ok a => perform env a s

end CommandLine

end StubResolver
