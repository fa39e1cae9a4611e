import StubResolver.Message

set_option autoImplicit false

namespace StubResolver

structure Question where
  name : String
  type : RecordType
  recordClass : RecordClass
  deriving DecidableEq, Repr

namespace Question

def internet (name : String) (type : RecordType) : Question := ⟨name, type, .internet⟩

end Question

def isQualified (name : String) : Bool := name.toList.getLast? = some '.'

def qualify (name : String) : String := if isQualified name then name else name ++ "."

theorem isQualified_iff {name : String} :
    isQualified name = true ↔ ∃ front, name = front ++ "." := by
  rw [isQualified, decide_eq_true_eq, List.getLast?_eq_some_iff]
  constructor
  · rintro ⟨cs, hcs⟩
    exact ⟨String.ofList cs,
      String.toList_inj.1 (by rw [hcs, String.toList_append, String.toList_ofList]; rfl)⟩
  · rintro ⟨front, rfl⟩
    exact ⟨front.toList, String.toList_append⟩

theorem isQualified_qualify (name : String) : isQualified (qualify name) = true := by
  unfold qualify
  split
  · assumption
  · exact isQualified_iff.2 ⟨name, rfl⟩

theorem qualify_qualify (name : String) : qualify (qualify name) = qualify name :=
  if_pos (isQualified_qualify name)

theorem qualify_of_relative {name : String} (h : isQualified name = false) :
    qualify name = name ++ "." := by
  rw [qualify, h]
  rfl

/-- Number of labels other than the root. -/
def labelCount (name : String) : Nat :=
  ((name.toList.splitOn '.').filter fun l => !l.isEmpty).length

def WireQuestion.toQuestion (q : WireQuestion) : Question :=
  ⟨qualify q.name.text, q.type, q.recordClass⟩

end StubResolver
