import StubResolver.Message.Reader

set_option autoImplicit false

namespace StubResolver

inductive RecordClass where
  | internet | chaos | hesiod | none | any
  deriving DecidableEq, Repr

namespace RecordClass

def all : List RecordClass := [internet, chaos, hesiod, none, any]

def code : RecordClass → UInt16
  | internet => 1
  | chaos => 3
  | hesiod => 4
  | none => 254
  | any => 255

def text : RecordClass → String
  | internet => "IN"
  | chaos => "CH"
  | hesiod => "HS"
  | none => "NONE"
  | any => "ANY"

def ofCode? (n : UInt16) : Option RecordClass := all.find? fun c => c.code = n

def ofText? (s : String) : Option RecordClass := all.find? fun c => c.text = s

def read : Reader RecordClass := do
  let n ← Reader.u16
  match ofCode? n with
  | some c => return c
  | Option.none => throw (.recordClass n.toNat)

end RecordClass

end StubResolver
