set_option autoImplicit false

namespace StubResolver.Text

def fieldList (type : String) (shown : List (String × String)) (complete : Bool) : String :=
  let items := shown.map (fun p => p.1 ++ ": " ++ p.2) ++ (if complete then [] else [".."])
  type ++ " \x7b " ++ ", ".intercalate items ++ " \x7d"

def optional : Option String → String
  | none => "None"
  | some s => "Some(" ++ s ++ ")"

def sequence (l : List String) : String := "[" ++ ", ".intercalate l ++ "]"

end StubResolver.Text
