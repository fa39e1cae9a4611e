import StubResolver.Message.Reader
import StubResolver.Text.Split

set_option autoImplicit false

namespace StubResolver

structure Name where
  labels : List Bytes
  deriving DecidableEq, Repr

namespace Name

def root : Name := ⟨[]⟩

/-- Letters, digits, underscores and hyphens, no hyphen at either end; or a lone star in front. -/
def validLabel (first : Bool) (l : List Char) : Bool :=
  (first && l = ['*']) ||
    (l.all (fun c => c.isAlphanum || c = '_' || c = '-') && l.head? != some '-' &&
      l.getLast? != some '-')

def utf8Length (l : List Char) : Nat := (String.ofList l).utf8ByteSize

/-- Only the last field may be empty. -/
def labelsOfText : Bool → List (List Char) → Except CodecError (List Bytes)
  | _, [] => .ok []
  | _, [[]] => .ok []
  | _, [] :: _ :: _ => .error .emptyLabel
  | first, l :: rest =>
    if utf8Length l > 63 then .error (.labelTooLong (utf8Length l))
    else if !validLabel first l then .error .labelCharacters
    else do return l.map (fun c => UInt8.ofNat c.toNat) :: (← labelsOfText false rest)

def ofText (s : String) : Except CodecError Name :=
  if s = "." then .ok root
  else if s.utf8ByteSize > 255 then .error (.nameTooLong s.utf8ByteSize)
  else do return ⟨← labelsOfText true (s.toList.splitOn '.')⟩

def text (n : Name) : String :=
  if n.labels = [] then "." else ".".intercalate (n.labels.map Bytes.toLatin1)

def encode (n : Name) : Bytes :=
  n.labels.flatMap (fun l => UInt8.ofNat l.length :: l) ++ [0]

/-- Reads the labels of a name. The last argument has one entry for each label or
pointer that may still be read. -/
def readLabels (message : Bytes) (compression : Bool) : Bytes → Reader (List Bytes)
  | [] => throw .pointerLoop
  | _ :: steps => do
    let c ← Reader.u8
    if c = 0 then return []
    else if c &&& 0xc0 = 0 then
      let l ← Reader.bytes c.toNat
      return l :: (← readLabels message compression steps)
    else if !compression then throw .compressedName
    else
      let d ← Reader.u8
      let target := (c &&& 0x3f).toNat * 256 + d.toNat
      match readLabels message compression steps (message.drop target) with
      | .ok (labels, _) => return labels
      | .error e => throw e

/-- Reads a name of `message`; the reader stands somewhere inside it. A name that visits no place of
the message twice needs no more steps than the message has bytes, and one. -/
def read (message : Bytes) (compression : Bool) : Reader Name := do
  return ⟨← readLabels message compression (0 :: message)⟩

end Name

end StubResolver
