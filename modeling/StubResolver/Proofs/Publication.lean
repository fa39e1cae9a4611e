import StubResolver.DnsCrypt.Publication
import StubResolver.Proofs.Reader

set_option autoImplicit false

namespace StubResolver.Publication

def strings (pieces : List Bytes) : Bytes :=
  pieces.flatMap fun piece => UInt8.ofNat piece.length :: piece

theorem strings_cons (piece : Bytes) (pieces : List Bytes) :
    strings (piece :: pieces) = UInt8.ofNat piece.length :: (piece ++ strings pieces) := rfl

@[simp] theorem joinStrings?_nil : joinStrings? [] = some [] := by rw [joinStrings?]

theorem joinStrings?_cons_append {piece : Bytes} (h : piece.length < 256) (left : Bytes) :
    joinStrings? (UInt8.ofNat piece.length :: (piece ++ left)) =
      (joinStrings? left).map (piece ++ ·) := by
  have hsize : (UInt8.ofNat piece.length).toNat = piece.length := UInt8.toNat_ofNat_of_lt h
  rw [joinStrings?]
  simp only [hsize, List.take_left, List.drop_left, ↓reduceIte]

theorem joinStrings?_strings_append {pieces : List Bytes} (h : ∀ piece ∈ pieces, piece.length < 256)
    (left : Bytes) :
    joinStrings? (strings pieces ++ left) = (joinStrings? left).map (pieces.flatten ++ ·) := by
  induction pieces with
  | nil => simp [strings]
  | cons piece pieces ih =>
    obtain ⟨hpiece, hrest⟩ := List.forall_mem_cons.1 h
    rw [strings_cons, List.cons_append, List.append_assoc,
      joinStrings?_cons_append hpiece, ih hrest]
    simp only [Option.map_map, List.flatten_cons, List.append_assoc, Function.comp_def]

theorem joinStrings?_strings {pieces : List Bytes} (h : ∀ piece ∈ pieces, piece.length < 256) :
    joinStrings? (strings pieces) = some pieces.flatten := by
  have hall := joinStrings?_strings_append h []
  rwa [List.append_nil, joinStrings?_nil, Option.map_some, List.append_nil] at hall

def fixedFields (type : RecordType) (recordClass : UInt16) (ttl : UInt32)
    (length : UInt16) : Bytes :=
  Bytes.ofUInt16 type.code ++ (Bytes.ofUInt16 recordClass ++ Bytes.ofUInt32 ttl) ++
    Bytes.ofUInt16 length

/-- Records one after the other, from some bytes of a message on. Each has the name of its
owner in front, in any form. -/
inductive Records (message : Bytes) : List (RecordType × Bytes) → Bytes → Prop where
  | nil (rest : Bytes) : Records message [] rest
  | cons {owner : Name} {type : RecordType} {recordClass : UInt16} {ttl : UInt32} {length : UInt16}
      {data b rest : Bytes} {records : List (RecordType × Bytes)} : length.toNat = data.length →
    Name.read message true b =
      .ok (owner, fixedFields type recordClass ttl length ++ (data ++ rest)) →
    Records message records rest → Records message ((type, data) :: records) b

theorem recordData_fixedFields (type : RecordType) (recordClass : UInt16) (ttl : UInt32)
    {length : UInt16} {data : Bytes} (hlen : length.toNat = data.length) (rest : Bytes) :
    recordData (fixedFields type recordClass ttl length ++ (data ++ rest)) =
      .ok ((type, data), rest) := by
  let front := Bytes.ofUInt16 type.code ++ (Bytes.ofUInt16 recordClass ++ Bytes.ofUInt32 ttl)
  have hfront : front.length = 8 := by simp [front]
  have hfixed : (fixedFields type recordClass ttl length).length = 10 := by simp [fixedFields]
  have htype : Bytes.toUInt16 ((fixedFields type recordClass ttl length).take 2) = type.code := by
    rw [fixedFields, List.append_assoc, List.take_left' (Bytes.length_ofUInt16 _),
      Bytes.toUInt16_ofUInt16]
  have hlength : Bytes.toNatBE ((fixedFields type recordClass ttl length).drop 8) =
      data.length := by
    have hlt : length.toNat < 65536 := length.toNat_lt
    rw [fixedFields, List.drop_left' hfront, Bytes.ofUInt16, Bytes.toNatBE_ofNatBE,
      Nat.mod_eq_of_lt (by omega), hlen]
  have hsplit := Bytes.split?_append (fixedFields type recordClass ttl length) (data ++ rest)
  rw [hfixed] at hsplit
  simp only [recordData, hsplit, htype, hlength, Bytes.split?_append]

def text? (record : RecordType × Bytes) : Option Bytes :=
  if record.1 = .txt then joinStrings? record.2 else none

/-- A record adds its text, if it is one, to those of the records behind it. -/
theorem texts_of_recordData {message b left data rest : Bytes} {owner : Name} {type : RecordType}
    (hname : Name.read message true b = .ok (owner, left))
    (hdata : recordData left = .ok ((type, data), rest))
    (hjoin : type = .txt → joinStrings? data ≠ none) (n : Nat) :
    texts message (n + 1) b = (texts message n rest).map ((text? (type, data)).toList ++ ·) := by
  rw [texts, hname]
  dsimp only
  rw [hdata, text?]
  simp only [bind, Except.bind]
  by_cases htype : type = .txt
  · cases hjoined : joinStrings? data with
    | none => exact absurd hjoined (hjoin htype)
    | some t =>
      simp only [if_pos htype]
      cases texts message n rest <;> rfl
  · simp only [if_neg htype]
    cases texts message n rest <;> rfl

theorem texts_of_recordData_error {message b left : Bytes} {owner : Name} {e : Error}
    (hname : Name.read message true b = .ok (owner, left))
    (hdata : recordData left = .error e) (n : Nat) :
    texts message (n + 1) b = .error e := by
  rw [texts, hname]
  dsimp only
  rw [hdata]
  rfl

theorem texts_of_joinStrings?_none {message b left data rest : Bytes} {owner : Name}
    (hname : Name.read message true b = .ok (owner, left))
    (hdata : recordData left = .ok ((.txt, data), rest)) (hjoin : joinStrings? data = none)
    (n : Nat) : texts message (n + 1) b = .error (.dnsCrypt .invalidResponse) := by
  rw [texts, hname]
  dsimp only
  rw [hdata]
  simp only [bind, Except.bind, ↓reduceIte, hjoin]
  rfl

theorem texts_of_records {message b : Bytes} {records : List (RecordType × Bytes)}
    (h : Records message records b)
    (hjoin : ∀ data, (.txt, data) ∈ records → joinStrings? data ≠ none) :
    texts message records.length b = .ok (records.filterMap text?) := by
  induction h with
  | nil rest => rfl
  | @cons owner type recordClass ttl length data b rest records hlen hname _ ih =>
    have hrest := ih fun data hmem => hjoin data (List.mem_cons_of_mem _ hmem)
    have hdata := recordData_fixedFields type recordClass ttl hlen rest
    have hfirst : type = .txt → joinStrings? data ≠ none :=
      fun htype => hjoin data (htype ▸ List.mem_cons_self)
    rw [List.length_cons, texts_of_recordData hname hdata hfirst, hrest, List.filterMap_cons]
    cases text? (type, data) <;> rfl

theorem read_of_truncated {message rest : Bytes} {h : Header}
    (hheader : Header.read message = .ok (h, rest)) (htruncated : h.truncated = true) :
    read message = .ok ⟨h.id, true, []⟩ := by
  rw [read, hheader]
  exact if_pos htruncated

theorem read_of_questions {message rest left : Bytes} {h : Header} {questions : List WireQuestion}
    (hheader : Header.read message = .ok (h, rest)) (htruncated : h.truncated = false)
    (hquestions : Reader.replicate (WireQuestion.read message) h.questions.toNat rest =
      .ok (questions, left)) :
    read message = (texts message h.answers.toNat left).map (⟨h.id, false, ·⟩) := by
  rw [read, hheader]
  simp only [htruncated, Bool.false_eq_true, ↓reduceIte, hquestions]
  cases texts message h.answers.toNat left <;> rfl

theorem read_of_questions_error {message rest : Bytes} {h : Header} {e : CodecError}
    (hheader : Header.read message = .ok (h, rest)) (htruncated : h.truncated = false)
    (hquestions : Reader.replicate (WireQuestion.read message) h.questions.toNat rest = .error e) :
    read message = .error (.codec e) := by
  rw [read, hheader]
  simp only [htruncated, Bool.false_eq_true, ↓reduceIte, hquestions]

theorem header_of_read {message : Bytes} {r : Reply} (hr : read message = .ok r) :
    ∃ h rest, Header.read message = .ok (h, rest) ∧ r.id = h.id ∧ r.truncated = h.truncated := by
  cases hheader : Header.read message with
  | error e =>
    rw [read, hheader] at hr
    cases hr
  | ok p =>
    obtain ⟨h, rest⟩ := p
    refine ⟨h, rest, rfl, ?_⟩
    cases htruncated : h.truncated with
    | true =>
      rw [read_of_truncated hheader htruncated] at hr
      cases hr
      exact ⟨rfl, rfl⟩
    | false =>
      cases hquestions : Reader.replicate (WireQuestion.read message) h.questions.toNat rest with
      | error e =>
        rw [read_of_questions_error hheader htruncated hquestions] at hr
        cases hr
      | ok p =>
        rw [read_of_questions hheader htruncated hquestions] at hr
        cases htexts : texts message h.answers.toNat p.2 with
        | error e =>
          rw [htexts] at hr
          cases hr
        | ok ts =>
          rw [htexts] at hr
          cases hr
          exact ⟨rfl, rfl⟩

/-- A reply that is not truncated, with these records as its answers. It may have questions in front
of them, and anything behind. -/
def Answers (message : Bytes) (id : UInt16) (records : List (RecordType × Bytes)) : Prop :=
  ∃ (h : Header) (questions : List WireQuestion) (rest rest' : Bytes),
    Header.read message = .ok (h, rest) ∧ h.id = id ∧ h.truncated = false ∧
      h.answers.toNat = records.length ∧
      Reader.replicate (WireQuestion.read message) h.questions.toNat rest = .ok (questions, rest') ∧
      Records message records rest'

theorem read_of_answers {message : Bytes} {id : UInt16} {records : List (RecordType × Bytes)}
    (h : Answers message id records)
    (hjoin : ∀ data, (.txt, data) ∈ records → joinStrings? data ≠ none) :
    read message = .ok ⟨id, false, records.filterMap text?⟩ := by
  obtain ⟨h, questions, rest, rest', hheader, rfl, htruncated, hcount, hquestions, hrecords⟩ := h
  rw [read_of_questions hheader htruncated hquestions, hcount, texts_of_records hrecords hjoin]
  rfl

def record (r : RecordType × Bytes) : Bytes :=
  0 :: (fixedFields r.1 1 60 (UInt16.ofNat r.2.length) ++ r.2)

def reply (id : UInt16) (records : List (RecordType × Bytes)) : Bytes :=
  Bytes.ofUInt16 id ++ (Bytes.ofUInt16 0x8180 ++ (Bytes.ofUInt16 0 ++
    (Bytes.ofUInt16 (UInt16.ofNat records.length) ++
      (Bytes.ofUInt16 0 ++ (Bytes.ofUInt16 0 ++ records.flatMap record)))))

theorem records_flatMap (message : Bytes) {records : List (RecordType × Bytes)}
    (hdata : ∀ r ∈ records, r.2.length < 65536) :
    Records message records (records.flatMap record) := by
  induction records with
  | nil => exact .nil _
  | cons r records ih =>
    have hlen : (UInt16.ofNat r.2.length).toNat = r.2.length :=
      UInt16.toNat_ofNat_of_lt (hdata r List.mem_cons_self)
    have hname : Name.read message true ((r :: records).flatMap record) = .ok (.root,
        fixedFields r.1 1 60 (UInt16.ofNat r.2.length) ++ (r.2 ++ records.flatMap record)) := by
      rw [List.flatMap_cons, record, List.cons_append, List.append_assoc]
      rfl
    exact .cons hlen hname (ih fun r' hr' => hdata r' (List.mem_cons_of_mem r hr'))

theorem answers_reply (id : UInt16) {records : List (RecordType × Bytes)}
    (hcount : records.length < 65536) (hdata : ∀ r ∈ records, r.2.length < 65536) :
    Answers (reply id records) id records := by
  have hrcode : Rcode.ofCode ((0x8180 : UInt16).toNat % 16) = .ok .noError := rfl
  have hread := Header.read_append 0x8180 (by decide) hrcode id 0 (UInt16.ofNat records.length) 0 0
    (records.flatMap record)
  exact ⟨_, [], _, records.flatMap record, hread, rfl, rfl, UInt16.toNat_ofNat_of_lt hcount, rfl,
    records_flatMap _ hdata⟩

end StubResolver.Publication
