import StubResolver.Candidate
import StubResolver.Duration

set_option autoImplicit false

namespace StubResolver

structure Answer where
  name : String
  type : String
  recordClass : String
  ttl : String
  address : String
  status : String
  roundTrip : String
  nameserver : String
  deriving DecidableEq, Repr

/-- A start of authority record; `primary` holds its seven fields. -/
structure Authority where
  name : String
  type : String
  recordClass : String
  ttl : String
  primary : String
  status : String
  roundTrip : String
  nameserver : String
  deriving DecidableEq, Repr

structure Response where
  questions : List Question
  answers : List Answer
  authorities : List Authority
  deriving DecidableEq, Repr

/-- What every record of one reply shares. -/
structure Arrival where
  status : String
  roundTrip : String
  nameserver : String
  deriving DecidableEq, Repr

namespace SoaData

def text (d : SoaData) : String :=
  s!"{qualify d.primary.text} {qualify d.mailbox.text} {d.serial} {d.refresh} {d.retry} {d.expire} " ++
    s!"{d.minimum}"

end SoaData

/-- What an answer shows of a record: an address, a fully qualified name, or the whole data. -/
def ResourceRecord.shown (r : ResourceRecord) : String :=
  let data := r.data.text
  let last := String.ofList (Text.lastWord data.toList)
  if r.type = .a ∨ r.type = .aaaa then last
  else if r.type = .cname ∨ r.type = .ns ∨ r.type = .ptr ∨ r.type = .dname then qualify last
  else data

def Answer.ofRecord (w : Arrival) (r : ResourceRecord) : Answer :=
  ⟨qualify r.owner.text, r.type.text, r.recordClass.text, s!"{r.ttl}s", r.shown,
    w.status, w.roundTrip, w.nameserver⟩

def Authority.ofRecord? (w : Arrival) (r : ResourceRecord) : Option Authority :=
  match r.data with
  | .soa d =>
      some ⟨qualify r.owner.text, r.type.text, r.recordClass.text, s!"{r.ttl}s", d.text, w.status,
      w.roundTrip, w.nameserver⟩
  | _ => none

namespace Response

/-- The records of a reply. The questions are left out; a transport lists those that it sent. -/
def ofMessage (m : Message) (roundTrip : Duration) (server : String) : Response :=
  let w : Arrival := ⟨(m.header.rcode.getD .noError).text, roundTrip.wholeMillis, server⟩
  ⟨[], (m.answers.filterMap Record.resource?).map (Answer.ofRecord w),
    (m.authorities.filterMap Record.resource?).filterMap (Authority.ofRecord? w)⟩

end Response

end StubResolver
