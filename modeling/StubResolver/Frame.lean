import StubResolver.Bytes
import StubResolver.IoError

set_option autoImplicit false

namespace StubResolver.Frame

def tooLong (n : Nat) : IoError := ⟨.invalidInput, s!"message of {n} bytes is too long for TCP"⟩

def write (message : Bytes) : Except IoError Bytes :=
  if message.length < 65536 then .ok (Bytes.ofNatBE 2 message.length ++ message)
  else .error (tooLong message.length)

def read (stream : Bytes) : Except IoError (Bytes × Bytes) :=
  match stream with
  | a :: b :: rest =>
    match Bytes.split? (Bytes.toNatBE [a, b]) rest with
    | some p => .ok p
    | none => .error .endOfStream
  | _ => .error .endOfStream

end StubResolver.Frame
