import StubResolver.Proofs.Stamp
import StubResolver.Transport

set_option autoImplicit false

namespace StubResolver

namespace Text

theorem stripIgnoringCase?_eq_some_iff {p cs rest : List Char} :
    stripIgnoringCase? p cs = some rest ↔ ∃ front, cs = front ++ rest ∧
      front.map Char.toLower = p.map Char.toLower := by
  induction p generalizing cs with
  | nil =>
    rw [stripIgnoringCase?, Option.some.injEq]
    constructor
    · rintro rfl
      exact ⟨[], rfl, rfl⟩
    · rintro ⟨front, rfl, hfront⟩
      rw [List.map_eq_nil_iff.1 hfront, List.nil_append]
  | cons c p ih =>
    cases cs with
    | nil =>
      rw [stripIgnoringCase?]
      constructor
      · intro h
        cases h
      · rintro ⟨front, hcs, hfront⟩
        rw [(List.append_eq_nil_iff.1 hcs.symm).1] at hfront
        cases hfront
    | cons d cs =>
      rw [stripIgnoringCase?]
      constructor
      · intro h
        split at h
        · next hcd =>
          obtain ⟨front, rfl, hfront⟩ := ih.1 h
          exact ⟨d :: front, rfl, by rw [List.map_cons, List.map_cons, hcd, hfront]⟩
        · cases h
      · rintro ⟨front, hcs, hfront⟩
        cases front with
        | nil => cases hfront
        | cons d' front =>
          rw [List.cons_append] at hcs
          obtain ⟨rfl, rfl⟩ := List.cons_eq_cons.1 hcs
          rw [List.map_cons, List.map_cons] at hfront
          obtain ⟨hd, hfront⟩ := List.cons_eq_cons.1 hfront
          rw [if_pos hd.symm]
          exact ih.2 ⟨front, rfl, hfront⟩

/-- What stands behind a scheme, of which the letters may have any case. -/
def Behind (scheme address rest : String) : Prop :=
  ∃ front, address = front ++ rest ∧ front.toList.map Char.toLower = scheme.toList

variable {scheme address rest : String}

theorem stripIgnoringCase?_iff_behind (hlower : scheme.toList.map Char.toLower = scheme.toList) :
    stripIgnoringCase? scheme.toList address.toList = some rest.toList ↔
      Behind scheme address rest := by
  rw [stripIgnoringCase?_eq_some_iff, hlower]
  constructor
  · rintro ⟨front, haddress, hfront⟩
    refine ⟨String.ofList front, ?_, by rw [String.toList_ofList, hfront]⟩
    rw [← String.ofList_toList (s := address), haddress, String.ofList_append, String.ofList_toList]
  · rintro ⟨front, rfl, hfront⟩
    exact ⟨front.toList, String.toList_append, hfront⟩

end Text

namespace ServerKind

open Text (Behind)

variable {p q : String × ServerKind} {address rest : String}

end ServerKind

open Text (Behind)

variable {scheme address rest : String}

/-- What stands behind the scheme of a URL begins with a host, and has no blank in it. -/
def Https.Hosted (rest : String) : Prop :=
  (∃ c cs, rest.toList = c :: cs ∧ c ∉ ['/', '?', '#']) ∧ ∀ c ∈ rest.toList, Text.isBlank c = false

namespace DnsCrypt.Stamp

def missingScheme : Error := .invalidStamp "missing sdns:// scheme"

theorem ofText_of_behind (h : Behind "sdns://" address rest) :
    Stamp.ofText address =
      match Text.Base64Url.decode (Bytes.ofString rest) with
      | .ok b => ofBytes b
      | .error e => .error (.invalidStamp e.message) := by
  have hstrip := (Text.stripIgnoringCase?_iff_behind (by decide)).2 h
  rw [ofText, payload?, scheme, hstrip]
  simp only [Option.map_some, String.ofList_toList]
  rfl

end DnsCrypt.Stamp

end StubResolver
