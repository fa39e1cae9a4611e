set_option autoImplicit false

namespace StubResolver

inductive CodecError where
  | outOfBytes
  | nameTooLong (size : Nat)
  | emptyLabel
  | labelTooLong (size : Nat)
  | labelCharacters
  | compressedName
  /-- The compression pointers of a name lead back to where they started. -/
  | pointerLoop
  | opcode (value : Nat)
  | rcode (value : Nat)
  | recordClass (value : Nat)
  | truncated
  | notAscii (decoded : String)
  | optOwner (name : String)
  deriving DecidableEq, Repr

def CodecError.message : CodecError → String
  | outOfBytes => "IO error."
  | nameTooLong n => s!"Invalid name length: must be smaller than 255, is {n}."
  | emptyLabel => "Invalid name: contains an empty label."
  | labelTooLong n => s!"Invalid label length in name: must be smaller than 64, is {n}."
  | labelCharacters =>
    "Invalid name: labels must contain only a-z, A-Z, 0-9, underscores, and hyphens, " ++
      "and must not start or end with a hyphen."
  | compressedName => "Encountered name compression where it is explicitly prohibited."
  | pointerLoop => "Encountered a name whose compression pointers form a loop."
  | opcode n => s!"Invalid opcode: valid are 0 to 2 and 4 to 6, got {n}."
  | rcode n => s!"Invalid rcode: valid are 0 to 11 and 16 to 23, got {n}."
  | recordClass n => s!"Invalid class: valid are 1, 3, 4, 254 or 255, got {n}."
  | truncated => "Received truncated message: if possible, resend query via TCP."
  | notAscii s => s!"Non-ASCII string in message: {s}."
  | optOwner s => s!"Invalid name in OPT record: must be root, is {s}."

end StubResolver
