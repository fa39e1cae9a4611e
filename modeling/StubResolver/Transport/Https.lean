import StubResolver.Exchange
import StubResolver.Inquiry

set_option autoImplicit false

namespace StubResolver

structure Https where
  url : String
  options : Options
  deriving DecidableEq, Repr

namespace Https

def scheme : String := "https://"

/-- Takes a URL with a host and without blanks. -/
def ofUrl (url : String) (o : Options) : Except Error Https := do
  let some rest := Text.stripIgnoringCase? scheme.toList url.toList
    | throw (.config s!"missing https in {url}")
  let host := rest.takeWhile fun c => c != '/' && c != '?' && c != '#'
  if host.isEmpty || rest.any Text.isBlank then
    throw (.config s!"{url} is not a valid HTTPS nameserver")
  return ⟨url, o⟩

def network : Network := ⟨.tcp, .any, true⟩

variable {σ : Type} (env : Environment σ) (h : Https)

def lookup (question : Question) : Task σ Response := do
  let ids ← Task.run env.queryIds
  Inquiry.run env.elapsed (fun _ => Exchange.https env h.url) h.options network h.url question ids

def fields (h : Https) : String := Text.fieldList "DohResolver" [("url", Text.quoted h.url)] false

end Https

end StubResolver
