import StubResolver.Proofs.Origin

set_option autoImplicit false

namespace StubResolver

namespace Text

/-- The word stands behind a blank or at the start, and nothing but blanks follows it. -/
def IsLastWord (cs word : List Char) : Prop :=
  ∃ before after, cs = before ++ word ++ after ∧ (∀ c ∈ word, isBlank c = false) ∧
    (∀ c ∈ after, isBlank c = true) ∧ (∀ c, before.getLast? = some c → isBlank c = true) ∧
      (word = [] → before = [])

theorem isLastWord_lastWord (cs : List Char) : IsLastWord cs (lastWord cs) := by
  obtain ⟨rest, hrest⟩ : ∃ rest, cs.reverse.dropWhile isBlank = rest := ⟨_, rfl⟩
  have hstart : ∀ c, rest.head? = some c → isBlank c = false := by
    intro c hc
    have hhead := List.head?_dropWhile_not isBlank cs.reverse
    rw [hrest, hc] at hhead
    exact hhead
  rw [lastWord, hrest]
  refine ⟨(rest.dropWhile fun c => !isBlank c).reverse, (cs.reverse.takeWhile isBlank).reverse,
    ?_, fun c hc => ?_, fun c hc => ?_, fun c hc => ?_, fun hword => ?_⟩
  · have hcs : cs = rest.reverse ++ (cs.reverse.takeWhile isBlank).reverse := by
      rw [← List.reverse_append, ← hrest, List.takeWhile_append_dropWhile, List.reverse_reverse]
    rwa [← List.reverse_append, List.takeWhile_append_dropWhile]
  · simpa using List.mem_takeWhile_imp (List.mem_reverse.1 hc)
  · exact List.mem_takeWhile_imp (List.mem_reverse.1 hc)
  · have hhead := List.head?_dropWhile_not (fun c => !isBlank c) rest
    rw [List.getLast?_reverse] at hc
    rw [hc] at hhead
    simpa using hhead
  · cases hcases : rest with
    | nil => rfl
    | cons c r =>
      have hc := hstart c (by rw [hcases]; rfl)
      rw [hcases, List.takeWhile_cons_of_pos (by rw [hc]; rfl), List.reverse_eq_nil_iff] at hword
      cases hword

theorem forall_mem_intercalate {P : Char → Prop} {c : Char} (hc : P c) (fs : List (List Char)) :
    (∀ x ∈ [c].intercalate fs, P x) ↔ ∀ f ∈ fs, ∀ x ∈ f, P x := by
  induction fs with
  | nil => simp [List.intercalate]
  | cons f fs ih =>
    cases fs with
    | nil => simp [List.intercalate_singleton]
    | cons g gs =>
      simp only [List.intercalate_cons_cons, List.forall_mem_append, List.forall_mem_singleton,
        List.forall_mem_cons]
        at ih ⊢
      rw [ih]
      exact ⟨fun h => ⟨h.1.1, h.2⟩, fun h => ⟨⟨h.1, hc⟩, h.2⟩⟩

end Text

theorem forall_qualify {P : Char → Prop} (hdot : P '.') (name : String) :
    (∀ c ∈ (qualify name).toList, P c) ↔ ∀ c ∈ name.toList, P c := by
  unfold qualify
  split
  · exact Iff.rfl
  · rw [String.toList_append, List.forall_mem_append]
    exact ⟨fun h => h.1, fun h => ⟨h, fun c hc => List.mem_singleton.1 hc ▸ hdot⟩⟩

namespace Name

/-- The bytes that are shown as blanks: tab to carriage return, space,
next line and no-break space. -/
def blanks : Bytes := [9, 10, 11, 12, 13, 0x20, 0x85, 0xa0]

theorem isBlank_iff (b : UInt8) : Text.isBlank (Char.ofNat b.toNat) = true ↔ b ∈ blanks := by
  have hnat : ∀ n < 256, Text.isBlank (Char.ofNat n) = true ↔
    UInt8.ofNat n ∈ blanks := by decide +kernel
  have hb := hnat b.toNat b.toNat_lt
  rwa [UInt8.ofNat_toNat] at hb

def Unbroken (n : Name) : Prop := ∀ l ∈ n.labels, ∀ b ∈ l, b ∉ blanks

theorem unbroken_iff (n : Name) : n.Unbroken ↔ ∀ c ∈ n.text.toList, Text.isBlank c = false := by
  have hbyte : ∀ b : UInt8, Text.isBlank (Char.ofNat b.toNat) = false ↔ b ∉ blanks := fun b => by
    rw [← isBlank_iff, Bool.not_eq_true]
  rw [Unbroken, text]
  split
  · next hroot =>
    rw [hroot]
    refine ⟨fun _ c hc => ?_, fun _ => by simp⟩
    obtain rfl := List.mem_singleton.1 hc
    decide
  · rw [String.toList_intercalate]
    refine Iff.trans ?_ (Text.forall_mem_intercalate (by decide) _).symm
    simp [Bytes.toLatin1, hbyte]

/-- What an answer makes of a target: the last word of its text, which is all of
it if no label has a blank. -/
structure ShownAs (n : Name) (a : String) : Prop where
  lastWord : ∃ word, Text.IsLastWord n.text.toList word ∧ a = qualify (String.ofList word)
  whole_iff : a = qualify n.text ↔ n.Unbroken

theorem shownAs_lastWord (n : Name) :
    n.ShownAs (qualify (String.ofList (Text.lastWord n.text.toList))) := by
  refine ⟨⟨_, Text.isLastWord_lastWord _, rfl⟩, ?_⟩
  rw [unbroken_iff]
  constructor
  · intro h
    rw [← forall_qualify (P := fun c => Text.isBlank c = false) (by decide), ← h,
      forall_qualify (P := fun c => Text.isBlank c = false) (by decide), String.toList_ofList]
    obtain ⟨_, _, -, hword, -⟩ := Text.isLastWord_lastWord n.text.toList
    exact hword
  · intro h
    rw [Text.lastWord_of_not_isBlank h, String.ofList_toList]

end Name

theorem ResourceRecord.shownAs {r : ResourceRecord} (h : r.Fits)
    (ht : r.type = .ns ∨ r.type = .cname ∨ r.type = .ptr ∨ r.type = .dname) :
    ∃ n, r.data = .name n ∧ n.ShownAs r.shown := by
  obtain ⟨n, hn⟩ := h.name ht
  refine ⟨n, hn, ?_⟩
  rw [shown, if_neg (by obtain ht | ht | ht | ht := ht <;> rw [ht] <;> decide),
    if_pos (by obtain ht | ht | ht | ht := ht <;> rw [ht] <;> decide), hn]
  exact n.shownAs_lastWord

namespace Response

def Decoded (r : Response) (m : Message) : Prop :=
  ∃ wire roundTrip server, Message.decode wire = .ok m ∧
    r.answers = (ofMessage m roundTrip server).answers

def Traceable (r : Response) : Prop :=
  ∀ a ∈ r.answers, a.type ≠ RecordType.a.text → a.type ≠ RecordType.aaaa.text → ∃ m, r.Decoded m

/-- The answers of a response, and the records with a name for their data. -/
theorem Decoded.shownAs {r : Response} {m : Message} (h : r.Decoded m) {i : Nat} {a : Answer}
    (ha : r.answers[i]? = some a) :
    ∃ record, (m.answers.filterMap Record.resource?)[i]? = some record ∧ a.type = record.type.text ∧
      (record.type = .ns ∨ record.type = .cname ∨ record.type = .ptr ∨ record.type = .dname →
        ∃ n, record.data = .name n ∧ n.ShownAs a.address) := by
  obtain ⟨wire, roundTrip, server, hdecode, hanswers⟩ := h
  rw [hanswers, ofMessage, List.getElem?_map, Option.map_eq_some_iff] at ha
  obtain ⟨record, hrecord, rfl⟩ := ha
  refine ⟨record, hrecord, rfl, fun ht => ?_⟩
  exact ResourceRecord.shownAs
    (Message.fits_of_decode hdecode record (List.mem_of_getElem? hrecord)) ht

theorem Obtained.traceable {r : Response} (h : r.Obtained) : r.Traceable := by
  intro a ha hv4 hv6
  cases h with
  | decoded hdecode hanswers => exact ⟨_, _, _, _, hdecode, hanswers⟩
  | found hanswers =>
    rw [hanswers] at ha
    obtain ⟨ip, -, rfl⟩ := List.mem_map.1 ha
    rw [OperatingSystem.answer, OperatingSystem.typeOf] at hv4 hv6
    split at hv4
    · exact absurd rfl hv4
    · next hip =>
      rw [if_neg hip] at hv6
      exact absurd rfl hv6

end Response

variable {σ : Type} {env : Environment σ}

namespace Chase

variable {hosts : List (String × List String)} {n : Nat} {name : String}
  {c c' : Cache (List String)}
  {xs : List Consultation} {result : Except Error (List String)}

theorem Trail.question_of_head (h : Trail hosts n name c xs result c') {x : Consultation}
    (hx : xs[0]? = some x) :
    x.question = .internet (qualify name) .a := by
  cases h <;> cases hx <;> assumption

/-- A chase asks for what it was led to. -/
theorem Trail.question_of_alias (h : Trail hosts n name c xs result c') {i : Nat}
    {x y : Consultation} (hx : xs[i]? = some x) (hy : xs[i + 1]? = some y) :
    ∃ target, x.found = .ok (.alias target) ∧ y.question = .internet (qualify target) .a := by
  induction h generalizing i with
  | failed => cases hy
  | addresses => cases hy
  | tooLong => cases hy
  | known => cases hy
  | onward _ hfound _ htrail ih =>
    cases i with
    | zero =>
      cases hx
      exact ⟨_, hfound, htrail.question_of_head hy⟩
    | succ i => exact ih hx hy

theorem Course.question_of_alias {start finish : Instant}
    (h : Course hosts name start finish c xs result c') {i : Nat} {x y : Consultation}
    (hx : xs[i]? = some x) (hy : xs[i + 1]? = some y) :
    ∃ target, x.found = .ok (.alias target) ∧ y.question = .internet (qualify target) .a := by
  cases h with
  | known => cases hx
  | chased _ htrail => exact htrail.question_of_alias hx hy

end Chase

namespace Resolver

open Chase (Consultation)

/--
A lookup and the next one of a resolution: the first was answered by a message that begins with an
alias, and the next asks for the last word of its target.
-/
def LedOn (x y : Consultation) : Prop :=
  ∃ response m record n word, x.result = .ok response ∧ response.Decoded m ∧
    (m.answers.filterMap Record.resource?)[0]? = some record ∧ record.type = .cname ∧
      record.data = .name n ∧
    Text.IsLastWord n.text.toList word ∧ y.question = .internet (qualify (String.ofList word)) .a ∧
    (y.question = .internet (qualify n.text) .a ↔ n.Unbroken)

theorem ledOn_of_asked {r : Resolver σ} (hr : r.transport.BuiltIn) {name : String} {s : σ} {i : Nat}
    {x y : Consultation} (hx : (asked env name (r, s))[i]? = some x)
    (hy : (asked env name (r, s))[i + 1]? = some y) :
    LedOn x y := by
  obtain ⟨target, hfound, hquestion⟩ := (course env name r s).question_of_alias hx hy
  obtain ⟨response, first, rest, hresponse, hanswers, htype, rfl⟩ := Chase.found_alias hfound
  have hfirst : response.answers[0]? = some first := by rw [hanswers]; rfl
  have hlookup : ∀ question (t : Transport σ × σ), t.1.BuiltIn →
      (Transport.lookup env question t).2.1.BuiltIn ∧
      ∀ r, (Transport.lookup env question t).1 = .ok r → r.Traceable := by
    intro question t ht
    exact ⟨Transport.lookup_builtIn ht,
      fun _ hr => (Transport.obtained_of_lookup ht hr).traceable⟩
  have hasked : ∀ x ∈ asked env name (r, s), ∀ r, x.result = .ok r → r.Traceable :=
    (Chase.forall_asked (P := fun x => ∀ r, x.result = .ok r → r.Traceable)
      (fun _ => hlookup _) name hr).2
  obtain ⟨m, hdecoded⟩ :=
    hasked x (List.mem_of_getElem? hx) response hresponse first (List.mem_of_getElem? hfirst)
    (by rw [htype]; decide) (by rw [htype]; decide)
  obtain ⟨record, hrecord, hkind, hshown⟩ := hdecoded.shownAs hfirst
  have hcname : record.type = .cname := RecordType.eq_of_text (by decide) (hkind.symm.trans htype)
  obtain ⟨n, hn, ⟨word, hword, haddress⟩, hwhole⟩ := hshown (.inr (.inl hcname))
  rw [haddress, qualify_qualify] at hquestion
  refine ⟨response, m, record, n, word, hresponse, hdecoded, hrecord, hcname, hn,
    hword, hquestion, ?_⟩
  rw [← hwhole, haddress, hquestion]
  simp [Question.internet]

/--
Of a record with a name for its data an answer shows the last word of the name, and a resolution
that comes to an alias goes on with the last word of its target. They are the whole name if, and
only if, none of its labels has a blank.
-/
theorem targets_shown (env : Environment σ) :
    (∀ (wire : Bytes) (m : Message) (roundTrip : Duration) (server : String),
      Message.decode wire = .ok m →
      ∀ (i : Nat) (record : ResourceRecord),
      (m.answers.filterMap Record.resource?)[i]? = some record →
      record.type = .ns ∨ record.type = .cname ∨ record.type = .ptr ∨ record.type = .dname →
      ∃ (n : Name) (a : Answer), record.data = .name n ∧
        (Response.ofMessage m roundTrip server).answers[i]? = some a ∧
        a.type = record.type.text ∧ n.ShownAs a.address) ∧
    ∀ (r : Resolver σ) name s i x y, r.transport.BuiltIn → (asked env name (r, s))[i]? = some x →
      (asked env name (r, s))[i + 1]? = some y → LedOn x y := by
  constructor
  · intro wire m roundTrip server hdecode i record hrecord ht
    let a :=
      Answer.ofRecord ⟨(m.header.rcode.getD .noError).text, roundTrip.wholeMillis, server⟩ record
    have ha : (Response.ofMessage m roundTrip server).answers[i]? = some a := by
      rw [Response.ofMessage, List.getElem?_map, hrecord]
      rfl
    have hfits := Message.fits_of_decode hdecode record (List.mem_of_getElem? hrecord)
    obtain ⟨n, hn, hshown⟩ := ResourceRecord.shownAs hfits ht
    exact ⟨n, a, hn, ha, rfl, hshown⟩
  · intro r name s i x y hr hx hy
    exact ledOn_of_asked hr hx hy

def spacedAlias : ResourceRecord :=
  ⟨⟨[[0x61], [0x64]]⟩, .cname, .internet, 60, .name ⟨[[0x62, 0x20, 0x63], [0x64]]⟩⟩

def spaced (query : Bytes) : Bytes :=
  query.take 2 ++ [0x81, 0x80, 0, 0, 0, 1, 0, 0, 0, 0] ++
    [1, 0x61, 1, 0x64, 0, 0, 5, 0, 1, 0, 0, 0, 60, 0, 7, 3, 0x62, 0x20, 0x63, 1, 0x64, 0]

def spacedMessage : Message :=
  ⟨⟨1, true, false, true, some .noError, 0, 1, 0, 0⟩, [], [.resource spacedAlias], [], []⟩

theorem targets_shown_spaced :
    let xs := asked (Environment.serving spaced none true) "a.d" (redirected, ⟨fun _ => 0, 0⟩)
    Message.decode (spaced [0, 1]) = .ok spacedMessage ∧
      (spacedMessage.answers.filterMap Record.resource?)[0]? = some spacedAlias ∧
        spacedAlias.type = .cname ∧
      (∃ n a, spacedAlias.data = .name n ∧
        (Response.ofMessage spacedMessage .zero "").answers[0]? = some a ∧
        a.type = spacedAlias.type.text ∧ n.ShownAs a.address) ∧
      redirected.transport.BuiltIn ∧ ∃ x y, xs[0]? = some x ∧ xs[1]? = some y ∧ LedOn x y := by
  intro xs
  have hdecode : Message.decode (spaced [0, 1]) = .ok spacedMessage := by decide +kernel
  have hbuiltIn : redirected.transport.BuiltIn := fun _ h => nomatch h
  have hlength : 1 < xs.length := by decide +kernel
  have hx : xs[0]? = some xs[0] := List.getElem?_eq_getElem _
  have hy : xs[1]? = some xs[1] := List.getElem?_eq_getElem _
  have hshown := targets_shown (Environment.serving spaced none true)
  exact ⟨hdecode, rfl, rfl, hshown.1 _ _ .zero "" hdecode 0 spacedAlias rfl (.inr (.inl rfl)),
    hbuiltIn, _, _, hx, hy, hshown.2 redirected "a.d" _ 0 _ _ hbuiltIn hx hy⟩

theorem not_the_whole_target :
    ∃ m record n a, Message.decode (spaced [0, 1]) = .ok m ∧
      (m.answers.filterMap Record.resource?)[0]? = some record ∧
      record.type = .cname ∧ record.data = .name n ∧
      (Response.ofMessage m .zero "").answers[0]? = some a ∧
      qualify n.text = "b c.d." ∧ a.address = "c.d." ∧
      (asked (Environment.serving spaced none true) "a.d" (redirected, ⟨fun _ => 0, 0⟩))[1]?.map
        (·.question) =
        some (.internet "c.d." .a) :=
  ⟨spacedMessage, spacedAlias, ⟨[[0x62, 0x20, 0x63], [0x64]]⟩,
    ⟨"a.d.", "CNAME", "IN", "60s", "c.d.", "NOERROR", "0ms", ""⟩, by decide +kernel, rfl, rfl, rfl,
    by decide +kernel, by decide +kernel, rfl, by decide +kernel⟩

end Resolver

end StubResolver
