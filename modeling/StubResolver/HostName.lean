import StubResolver.HostName.Composition
import StubResolver.HostName.Direction
import StubResolver.HostName.Joining
import StubResolver.HostName.Punycode
import StubResolver.Text.Utf8

/-!
International host names. A name may be given in any script; it is looked up in an ASCII
form, in which each label with other characters is replaced by its punycode behind the
mark `xn--`. Names that look the same have one ASCII form. A label that is given in
punycode is kept if it has this form.
-/

set_option autoImplicit false

namespace StubResolver.HostName

def mark : List Char := ['x', 'n', '-', '-']

def readLimit : Nat := 2000

def writeLimit : Nat := 1000

def normalize? (cs : List Char) : Option (List Char) := do
  return compose (← cs.mapM fold?).flatten

/-- A label of a folded name in its own script. Punycode stands for text that folding keeps and that
needed it. -/
def shown? (label : List Char) : Option (List Char) :=
  if !mark.isPrefixOf label then some label
  else
    let code := label.drop mark.length
    if label.getLast? = some '-' || readLimit < code.length || !Text.isAscii code then none
    else (Punycode.decode? code).filter fun cs =>
      cs.all (fun c => fold? c = some [c]) && compose cs = cs

def isVirama (c : Char) : Bool := markClass c = 9

/-- A label must not be too long to be written, may not start with a mark,
and has its joiners in place. -/
def isValidLabel (label : List Char) : Bool :=
  Text.isAscii label ||
    (label.length ≤ writeLimit && !(label.head?.any Text.isMark) &&
      joinersInPlace isVirama [] label)

def asciiLabel (label : List Char) : List Char :=
  if Text.isAscii label then label else mark ++ Punycode.encode label

/-- The ASCII form of a name, if it has one. Lengths and hyphens are not looked at, nor which ASCII
characters occur. -/
def toAscii? (cs : List Char) : Option (List Char) := do
  let labels ← ((← normalize? cs).splitOn '.').mapM shown?
  let ordered := !labels.any (·.any runsRightToLeft) ||
    labels.all fun l => keepsOrder (l.map Direction.of)
  if labels.all isValidLabel && ordered then
    some (List.intercalate ['.'] (labels.map asciiLabel))
  else none

end StubResolver.HostName
