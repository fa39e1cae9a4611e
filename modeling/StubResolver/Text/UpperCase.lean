/-!
Upper case, as far as the result is made of ASCII letters. That settles whether a text
equals a word of ASCII capitals: a character that is left out here has an upper-case form
with a character outside ASCII.
-/

set_option autoImplicit false

namespace StubResolver.Text

def upperLetters (c : Char) : List Char :=
  match c with
  | 'ß' => ['S', 'S']
  | 'ı' => ['I']
  | 'ſ' => ['S']
  | 'ﬀ' => ['F', 'F']
  | 'ﬁ' => ['F', 'I']
  | 'ﬂ' => ['F', 'L']
  | 'ﬃ' => ['F', 'F', 'I']
  | 'ﬄ' => ['F', 'F', 'L']
  | 'ﬅ' | 'ﬆ' => ['S', 'T']
  | c => [c.toUpper]

def upperCase (s : String) : String := String.ofList (s.toList.flatMap upperLetters)

end StubResolver.Text
