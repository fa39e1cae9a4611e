import StubResolver.Text.Numeral

set_option autoImplicit false

namespace StubResolver.Text

inductive Json where
  | number (n : Nat)
  | string (s : String)
  | array (l : List Json)
  | object (l : List (String × Json))

namespace Json

/-- Only quotes, backslashes and control characters are escaped. -/
def escapedChar (c : Char) : String :=
  match c with
  | '"' => "\\\""
  | '\\' => "\\\\"
  | '\n' => "\\n"
  | '\r' => "\\r"
  | '\t' => "\\t"
  | '\x08' => "\\b"
  | '\x0c' => "\\f"
  | c => if c.toNat < 0x20 then "\\u" ++ padLeft 4 '0' (lowerHex c.toNat) else c.toString

def literal (s : String) : String := "\"" ++ String.join (s.toList.map escapedChar) ++ "\""

def lineAt (level : Nat) : String := "\n" ++ String.ofList (List.replicate (2 * level) ' ')

def enclosed (level : Nat) (opening closing : String) (contents : List String) : String :=
  if contents.isEmpty then opening ++ closing
  else opening ++ ",".intercalate (contents.map (lineAt (level + 1) ++ ·)) ++
    lineAt level ++ closing

mutual

def textAt (level : Nat) : Json → String
  | number n => toString n
  | string s => literal s
  | array l => enclosed level "[" "]" (elementsAt (level + 1) l)
  | object l => enclosed level "\x7b" "\x7d" (membersAt (level + 1) l)

def elementsAt (level : Nat) : List Json → List String
  | [] => []
  | v :: r => textAt level v :: elementsAt level r

def membersAt (level : Nat) : List (String × Json) → List String
  | [] => []
  | (k, v) :: r => (literal k ++ ": " ++ textAt level v) :: membersAt level r

end

def text (v : Json) : String := textAt 0 v

end Json

end StubResolver.Text
