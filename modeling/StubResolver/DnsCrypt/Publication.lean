import StubResolver.Error
import StubResolver.Message

/-!
The TXT records in which a provider publishes certificates. Their data is binary, so that
the strings of each record are only joined, never decoded; the next record always starts
where the announced length ends.
-/

set_option autoImplicit false

namespace StubResolver.Publication

structure Reply where
  id : UInt16
  truncated : Bool
  texts : List Bytes
  deriving DecidableEq, Repr

/-- The strings of TXT data, joined; nothing if the last one is cut short. -/
def joinStrings? : Bytes → Option Bytes
  | [] => some []
  | n :: r =>
    let front := r.take n.toNat
    if front.length = n.toNat then (joinStrings? (r.drop n.toNat)).map (front ++ ·) else none
termination_by b => b.length
decreasing_by simp only [List.length_drop, List.length_cons]; omega

def recordData (rest : Bytes) : Except Error ((RecordType × Bytes) × Bytes) :=
  match Bytes.split? 10 rest with
  | none => .error (.io .endOfStream)
  | some (fixed, rest) =>
    match Bytes.split? (Bytes.toNatBE (fixed.drop 8)) rest with
    | none => .error (.dnsCrypt .invalidResponse)
    | some (data, rest) => .ok ((⟨Bytes.toUInt16 (fixed.take 2)⟩, data), rest)

def texts (message : Bytes) : Nat → Bytes → Except Error (List Bytes)
  | 0, _ => .ok []
  | n + 1, rest =>
    match Name.read message true rest with
    | .error e => .error (.codec e)
    | .ok (_, rest) => do
      let ((type, data), rest) ← recordData rest
      if type = .txt then
        match joinStrings? data with
        | none => throw (.dnsCrypt .invalidResponse)
        | some t => return t :: (← texts message n rest)
      else texts message n rest

/-- Reads a reply. Of a truncated one nothing but the header counts. -/
def read (message : Bytes) : Except Error Reply :=
  match Header.read message with
  | .error e => .error (.codec e)
  | .ok (h, rest) =>
    if h.truncated then .ok ⟨h.id, true, []⟩
    else match Reader.replicate (WireQuestion.read message) h.questions.toNat rest with
      | .error e => .error (.codec e)
      | .ok (_, rest) => do return ⟨h.id, false, ← texts message h.answers.toNat rest⟩

end StubResolver.Publication
