import StubResolver.Candidate
import StubResolver.Environment
import StubResolver.Response

/-!
Asking a nameserver. The candidates of a question are sent one after the other until a reply has
answers. A truncated reply over datagrams makes all candidates be sent again over a stream, once;
over a stream it is an error, like a reply with a foreign identifier or one that cannot be read.
-/

set_option autoImplicit false

namespace StubResolver.Inquiry

variable {σ : Type}

inductive PassEnd where
  | response (r : Response)
  | truncated
  deriving DecidableEq, Repr

/-- Checks the identifier of a reply and reads its records; `none` stands for a truncated one. -/
def readReply (id : UInt16) (roundTrip : Duration) (server : String) (reply : Bytes) :
    Except Error (Option Response) := do
  let header ← match Header.read reply with
    | .ok (h, _) => pure h
    | .error e => throw (.codec e)
  if header.id != id then throw .idMismatch
  if header.truncated then return none
  match Message.decode reply with
  | .ok m => return some (Response.ofMessage m roundTrip server)
  | .error e => throw (.codec e)

/-- One pass over the queries not yet sent. `sent` are the questions of those that were, `last` is
the reply to the last of them. -/
def pass (elapsed : σ → Duration) (exchange : Bytes → Task σ Bytes) (server : String) :
    List Query → List Question → Response → Task σ PassEnd
  | [], sent, last => return .response { last with questions := sent }
  | q :: qs, sent, _ => do
    let sent := sent ++ [q.question.toQuestion]
    let start ← Task.get elapsed
    let reply ← exchange q.encode
    let finish ← Task.get elapsed
    match ← Task.ofExcept id (readReply q.id ⟨finish.nanos - start.nanos⟩ server reply) with
    | none => return .truncated
    | some r =>
      if r.answers.isEmpty then pass elapsed exchange server qs sent r
      else return .response { r with questions := sent }

def noRecords : Response := ⟨[], [], []⟩

/-- Asks for the candidates of a question, under the given identifiers. -/
def run (elapsed : σ → Duration) (exchange : Network → Bytes → Task σ Bytes) (o : Options)
    (network : Network) (server : String) (question : Question) (ids : Nat → UInt16) :
    Task σ Response := do
  let queries ← Task.ofExcept .codec (Candidate.queries question o.ndots o.search ids)
  match ← pass elapsed (exchange network) server queries [] noRecords with
  | .response r => return r
  | .truncated =>
    if network.isStream then throw .truncated
    else match ← pass elapsed (exchange network.toTcp) server queries [] noRecords with
      | .response r => return r
      | .truncated => throw .truncated

end StubResolver.Inquiry
