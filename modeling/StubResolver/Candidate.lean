import StubResolver.Question

set_option autoImplicit false

namespace StubResolver.Candidate

/-- The name with a suffix appended; a suffix of dots alone gives none. -/
def withSuffix? (name suffix : String) : Option String :=
  match suffix.toList.dropWhile (· = '.') with
  | [] => none
  | cs => some (qualify (qualify name ++ String.ofList cs))

/-- The candidates for `name`, in the order in which they are tried. -/
def expand (name : String) (ndots : Nat) (search : List String) : List String :=
  if isQualified name then [name]
  else
    let suffixed := search.filterMap (withSuffix? name)
    if ndots < labelCount name then qualify name :: suffixed else suffixed ++ [qualify name]

/-- The queries for the candidates of a question, one identifier for each;
none if a candidate is no name. -/
def queries (q : Question) (ndots : Nat) (search : List String) (ids : Nat → UInt16) :
    Except CodecError (List Query) :=
  ((expand q.name ndots search).zipIdx).mapM fun (name, i) => do
    return ⟨ids i, ⟨← Name.ofText name, q.type, q.recordClass⟩⟩

end StubResolver.Candidate
