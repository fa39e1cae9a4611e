import StubResolver.Message.Record

set_option autoImplicit false

namespace StubResolver

structure WireQuestion where
  name : Name
  type : RecordType
  recordClass : RecordClass
  deriving DecidableEq, Repr

namespace WireQuestion

def read (message : Bytes) : Reader WireQuestion := do
  let name ← Name.read message true
  let type : RecordType := ⟨← Reader.u16⟩
  return ⟨name, type, ← RecordClass.read⟩

def encode (q : WireQuestion) : Bytes :=
  q.name.encode ++ Bytes.ofUInt16 q.type.code ++ Bytes.ofUInt16 q.recordClass.code

end WireQuestion

structure Query where
  id : UInt16
  question : WireQuestion
  deriving DecidableEq, Repr

namespace Query

def flags : UInt16 := 0x0100

def encode (q : Query) : Bytes :=
  Bytes.ofUInt16 q.id ++ Bytes.ofUInt16 flags ++ [0, 1, 0, 0, 0, 0, 0, 0] ++ q.question.encode

end Query

structure Message where
  header : Header
  questions : List WireQuestion
  answers : List Record
  authorities : List Record
  additionals : List Record
  deriving DecidableEq, Repr

namespace Message

/-- Each OPT record among the additional records replaces the response
code, the last one for good. -/
def finalRcode (rcode : Option Rcode) (additionals : List Record) : Option Rcode :=
  (additionals.filterMap Record.opt?).foldl (fun _ o => o.rcode) rcode

def readBody (message : Bytes) (h : Header) : Reader Message := do
  let questions ← Reader.replicate (WireQuestion.read message) h.questions.toNat
  let record := Record.read message h.rcode
  let answers ← Reader.replicate record h.answers.toNat
  let authorities ← Reader.replicate record h.authorities.toNat
  let additionals ← Reader.replicate record h.additionals.toNat
  return ⟨{ h with rcode := finalRcode h.rcode additionals }, questions, answers, authorities,
    additionals⟩

/-- Reads a whole message. A truncated one is refused; bytes after the last record are ignored. -/
def decode (message : Bytes) : Except CodecError Message := do
  let (h, rest) ← Header.read message
  if h.truncated then throw .truncated
  let (m, _) ← readBody message h rest
  return m

end Message

end StubResolver
