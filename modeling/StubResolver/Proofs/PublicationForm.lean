import StubResolver.Proofs.Publication

/-!
The form of replies with records. A client walks over the answers by the lengths that they announce,
so that every answer has its place; what it reads are the strings of the TXT answers, joined, and
what stops it is the first answer that is not in order.
-/

set_option autoImplicit false

namespace StubResolver.Publication

def Holds (data : Bytes) (pieces : List Bytes) : Prop :=
  data = strings pieces ∧ ∀ piece ∈ pieces, piece.length < 256

def Overruns (left : Bytes) : Prop := ∃ n behind, left = n :: behind ∧ behind.length < n.toNat

theorem joinStrings?_of_overruns {left : Bytes} (h : Overruns left) : joinStrings? left = none := by
  obtain ⟨n, behind, rfl, hshort⟩ := h
  have hfront : (behind.take n.toNat).length ≠ n.toNat := by
    rw [List.length_take]
    omega
  rw [joinStrings?]
  exact if_neg hfront

theorem string_cases (data : Bytes) : data = [] ∨ Overruns data ∨
    ∃ piece left, piece.length < 256 ∧ data = UInt8.ofNat piece.length :: (piece ++ left) := by
  cases data with
  | nil => exact .inl rfl
  | cons n behind =>
    -- Only what is left of the data counts for a string, not what the message has behind it.
    by_cases hlong : behind.length < n.toNat
    · exact .inr (.inl ⟨n, behind, rfl, hlong⟩)
    · have hlength : (behind.take n.toNat).length = n.toNat := by
        rw [List.length_take]
        omega
      have hbyte : n.toNat < 256 := n.toNat_lt
      refine .inr (.inr ⟨behind.take n.toNat, behind.drop n.toNat, by rwa [hlength], ?_⟩)
      rw [hlength, UInt8.ofNat_toNat, List.take_append_drop]

/-- One string after the other comes off the data until nothing is left, or no whole string. -/
theorem exists_strings (data : Bytes) : ∃ pieces left, data = strings pieces ++ left ∧
    (∀ piece ∈ pieces, piece.length < 256) ∧ (left = [] ∨ Overruns left) := by
  induction hsize : data.length using Nat.strong_induction_on generalizing data with
  | _ size ih =>
    obtain hnil | hoverruns | ⟨piece, left, hpiece, rfl⟩ := string_cases data
    · exact ⟨[], data, rfl, nofun, .inl hnil⟩
    · exact ⟨[], data, rfl, nofun, .inr hoverruns⟩
    · have hless : left.length < size := by
        rw [← hsize, List.length_cons, List.length_append]
        omega
      obtain ⟨pieces, last, hleft, hshort, hlast⟩ := ih left.length hless left rfl
      refine ⟨piece :: pieces, last, ?_, List.forall_mem_cons.2 ⟨hpiece, hshort⟩, hlast⟩
      rw [strings_cons, List.cons_append, List.append_assoc, ← hleft]

theorem Holds.joinStrings?_eq {data : Bytes} {pieces : List Bytes} (h : Holds data pieces) :
    joinStrings? data = some pieces.flatten :=
  h.1 ▸ joinStrings?_strings h.2

theorem joinStrings?_eq_some_iff {data text : Bytes} :
    joinStrings? data = some text ↔ ∃ pieces, Holds data pieces ∧ text = pieces.flatten := by
  constructor
  · intro h
    obtain ⟨pieces, left, rfl, hshort, rfl | hleft⟩ := exists_strings data
    · rw [List.append_nil] at h ⊢
      rw [joinStrings?_strings hshort, Option.some.injEq] at h
      exact ⟨pieces, ⟨rfl, hshort⟩, h.symm⟩
    · rw [joinStrings?_strings_append hshort, joinStrings?_of_overruns hleft] at h
      cases h
  · rintro ⟨pieces, hholds, rfl⟩
    exact hholds.joinStrings?_eq

theorem joinStrings?_eq_none_iff {data : Bytes} :
    joinStrings? data = none ↔ ∀ pieces, ¬ Holds data pieces := by
  simp only [Option.eq_none_iff_forall_ne_some, Ne, joinStrings?_eq_some_iff, not_exists, not_and]
  exact ⟨fun h pieces hholds => h _ pieces hholds rfl,
    fun h _ pieces hholds => absurd hholds (h pieces)⟩

theorem length_strings (pieces : List Bytes) :
    (strings pieces).length = pieces.length + pieces.flatten.length := by
  induction pieces with
  | nil => rfl
  | cons piece pieces ih =>
    rw [strings_cons, List.length_cons, List.length_append, ih, List.flatten_cons,
      List.length_append, List.length_cons]
    omega

def position (message left : Bytes) : Nat := message.length - left.length

theorem position_append (front left : Bytes) : position (front ++ left) left = front.length := by
  rw [position, List.length_append, Nat.add_sub_cancel]

theorem drop_position {message left : Bytes} (h : left <:+ message) :
    message.drop (position message left) = left :=
  (List.suffix_iff_eq_drop.1 h).symm

/-! The place of an answer is that of its type, right behind the name of its owner. -/

def typeAt (message : Bytes) (place : Nat) : RecordType :=
  ⟨Bytes.toUInt16 ((message.drop place).take 2)⟩

def sizeAt (message : Bytes) (place : Nat) : Nat :=
  Bytes.toNatBE ((message.drop (place + 8)).take 2)

def dataAt (message : Bytes) (place : Nat) : Bytes :=
  (message.drop (place + 10)).take (sizeAt message place)

def endAt (message : Bytes) (place : Nat) : Nat := place + 10 + sizeAt message place

variable {message : Bytes} {start place stop : Nat}

theorem recordData_of_fields (h : message.length < place + 10) :
    recordData (message.drop place) = .error (.io .endOfStream) := by
  have hshort : ¬ 10 ≤ (message.drop place).length := by
    rw [List.length_drop]
    omega
  rw [recordData, Bytes.split?_eq, if_neg hshort]

theorem recordData_eq (h : place + 10 ≤ message.length) : recordData (message.drop place) =
    match Bytes.split? (sizeAt message place) (message.drop (place + 10)) with
    | none => .error (.dnsCrypt .invalidResponse)
    | some (data, rest) => .ok ((typeAt message place, data), rest) := by
  have hlong : 10 ≤ (message.drop place).length := by
    rw [List.length_drop]
    omega
  have hsize : Bytes.toNatBE (((message.drop place).take 10).drop 8) = sizeAt message place := by
    rw [List.drop_take, List.drop_drop]
    rfl
  have htype : ((message.drop place).take 10).take 2 = (message.drop place).take 2 := by
    rw [List.take_take]
    rfl
  rw [recordData, Bytes.split?_eq, if_pos hlong]
  dsimp only
  rw [hsize, htype, List.drop_drop]
  rfl

theorem recordData_of_data (hfields : place + 10 ≤ message.length)
    (h : message.length < endAt message place) :
    recordData (message.drop place) = .error (.dnsCrypt .invalidResponse) := by
  have hshort : ¬ sizeAt message place ≤ (message.drop (place + 10)).length := by
    rw [endAt] at h
    rw [List.length_drop]
    omega
  rw [recordData_eq hfields, Bytes.split?_eq, if_neg hshort]

theorem recordData_of_inside (h : endAt message place ≤ message.length) :
    recordData (message.drop place) =
    .ok ((typeAt message place, dataAt message place), message.drop (endAt message place)) := by
  rw [endAt] at h
  have hfields : place + 10 ≤ message.length := by omega
  have hlong : sizeAt message place ≤ (message.drop (place + 10)).length := by
    rw [List.length_drop]
    omega
  rw [recordData_eq hfields, Bytes.split?_eq, if_pos hlong, List.drop_drop]
  rfl

def OwnerEnds (message : Bytes) (start place : Nat) : Prop :=
  ∃ owner left, Name.read message true (message.drop start) = .ok (owner, left) ∧
    position message left = place

theorem OwnerEnds.read (h : OwnerEnds message start place) :
    ∃ owner, Name.read message true (message.drop start) = .ok (owner, message.drop place) := by
  obtain ⟨owner, left, hread, rfl⟩ := h
  have hleft : left <:+ message :=
    (Name.leavesEnd_read message true _ _ _ hread).trans (List.drop_suffix _ _)
  exact ⟨owner, by rw [drop_position hleft, hread]⟩

theorem OwnerEnds.unique {place' : Nat} (h : OwnerEnds message start place)
    (h' : OwnerEnds message start place') :
    place' = place := by
  obtain ⟨owner, left, hread, rfl⟩ := h
  obtain ⟨owner', left', hread', rfl⟩ := h'
  rw [hread] at hread'
  cases hread'
  rfl

/-- Answers one behind the other, by their places. Each begins where the one before it ends. -/
inductive Placed (message : Bytes) : Nat → List Nat → Nat → Prop where
  | nil (start : Nat) : Placed message start [] start
  | cons {start place stop : Nat} {places : List Nat} : OwnerEnds message start place →
    Placed message (endAt message place) places stop → Placed message start (place :: places) stop

theorem Placed.unique {places places' : List Nat} {stop' : Nat}
    (h : Placed message start places stop) (h' : Placed message start places' stop')
    (hlength : places'.length = places.length) : places' = places := by
  induction h generalizing places' with
  | nil start => exact List.length_eq_zero_iff.1 hlength
  | cons howner _ ih =>
    cases h' with
    | nil => cases hlength
    | cons howner' hrest' =>
      obtain rfl := howner.unique howner'
      rw [ih hrest' (Nat.succ.inj hlength)]

structure InOrder (message : Bytes) (place : Nat) : Prop where
  inside : endAt message place ≤ message.length
  text : typeAt message place = .txt → ∃ pieces, Holds (dataAt message place) pieces

inductive Flawed (message : Bytes) (start : Nat) : Error → Prop where
  | owner {e : CodecError} : Name.read message true (message.drop start) = .error e →
    Flawed message start (.codec e)
  | fields {place : Nat} : OwnerEnds message start place → message.length < place + 10 →
    Flawed message start (.io .endOfStream)
  | data {place : Nat} : OwnerEnds message start place → place + 10 ≤ message.length →
    message.length < endAt message place → Flawed message start (.dnsCrypt .invalidResponse)
  | text {place : Nat} : OwnerEnds message start place → endAt message place ≤ message.length →
    typeAt message place = .txt → (∀ pieces, ¬ Holds (dataAt message place) pieces) →
    Flawed message start (.dnsCrypt .invalidResponse)

theorem flawed_or_inOrder (message : Bytes) (start : Nat) :
    (∃ e, Flawed message start e) ∨ ∃ place, OwnerEnds message start place ∧
      InOrder message place := by
  cases hread : Name.read message true (message.drop start) with
  | error e => exact .inl ⟨_, .owner hread⟩
  | ok r =>
    obtain ⟨owner, left⟩ := r
    have howner : OwnerEnds message start (position message left) := ⟨owner, left, hread, rfl⟩
    by_cases hinside : endAt message (position message left) ≤ message.length
    · by_cases htext : typeAt message (position message left) = .txt →
        ∃ pieces, Holds (dataAt message (position message left)) pieces
      · exact .inr ⟨_, howner, hinside, htext⟩
      · obtain ⟨htype, hnone⟩ := Classical.not_imp.1 htext
        exact .inl ⟨_, .text howner hinside htype (not_exists.1 hnone)⟩
    · by_cases hfields : position message left + 10 ≤ message.length
      · exact .inl ⟨_, .data howner hfields (Nat.lt_of_not_le hinside)⟩
      · exact .inl ⟨_, .fields howner (Nat.lt_of_not_le hfields)⟩

theorem texts_of_flawed {e : Error} (h : Flawed message start e) (n : Nat) :
    texts message (n + 1) (message.drop start) = .error e := by
  cases h with
  | owner hread => rw [texts, hread]
  | fields howner hfields =>
    obtain ⟨owner, hread⟩ := howner.read
    exact texts_of_recordData_error hread (recordData_of_fields hfields) n
  | data howner hfields hdata =>
    obtain ⟨owner, hread⟩ := howner.read
    exact texts_of_recordData_error hread (recordData_of_data hfields hdata) n
  | text howner hinside htype hnone =>
    obtain ⟨owner, hread⟩ := howner.read
    have hdata := recordData_of_inside hinside
    rw [htype] at hdata
    exact texts_of_joinStrings?_none hread hdata (joinStrings?_eq_none_iff.2 hnone) n

/-- An answer adds its text, if it is one, and the next one is read where its data end. -/
theorem texts_of_inOrder (howner : OwnerEnds message start place)
    (horder : InOrder message place) (n : Nat) :
    texts message (n + 1) (message.drop start) =
      (texts message n (message.drop (endAt message place))).map
      ((text? (typeAt message place, dataAt message place)).toList ++ ·) := by
  obtain ⟨owner, hread⟩ := howner.read
  refine texts_of_recordData hread (recordData_of_inside horder.inside) (fun htype hnone => ?_) n
  obtain ⟨pieces, hholds⟩ := horder.text htype
  exact joinStrings?_eq_none_iff.1 hnone pieces hholds

inductive Cuts (message : Bytes) : List Nat → List (List Bytes) → Prop where
  | nil : Cuts message [] []
  | text {place : Nat} {pieces : List Bytes} {places : List Nat} {cuts : List (List Bytes)} :
    typeAt message place = .txt → Holds (dataAt message place) pieces → Cuts message places cuts →
    Cuts message (place :: places) (pieces :: cuts)
  | other {place : Nat} {places : List Nat} {cuts : List (List Bytes)} :
    typeAt message place ≠ .txt →
    Cuts message places cuts → Cuts message (place :: places) cuts

theorem exists_cuts {places : List Nat} (h : ∀ place ∈ places, InOrder message place) :
    ∃ cuts, Cuts message places cuts := by
  induction places with
  | nil => exact ⟨[], .nil⟩
  | cons place places ih =>
    obtain ⟨hplace, hrest⟩ := List.forall_mem_cons.1 h
    obtain ⟨cuts, hcuts⟩ := ih hrest
    by_cases htype : typeAt message place = .txt
    · obtain ⟨pieces, hholds⟩ := hplace.text htype
      exact ⟨_, .text htype hholds hcuts⟩
    · exact ⟨_, .other htype hcuts⟩

theorem texts_of_placed {places : List Nat} {cuts : List (List Bytes)}
    (h : Placed message start places stop) (horder : ∀ place ∈ places, InOrder message place)
    (hcuts : Cuts message places cuts) (n : Nat) :
    texts message (places.length + n) (message.drop start) =
      (texts message n (message.drop stop)).map (cuts.map List.flatten ++ ·) := by
  -- What comes behind the answers is left open, so that this serves a walk to the end and one that
  -- is stopped.
  induction h generalizing cuts with
  | nil start =>
    cases hcuts
    rw [List.length_nil, Nat.zero_add]
    cases texts message n (message.drop start) <;> rfl
  | @cons start place stop places howner _ ih =>
    obtain ⟨hplace, hrest⟩ := List.forall_mem_cons.1 horder
    rw [List.length_cons, Nat.add_right_comm, texts_of_inOrder howner hplace, text?]
    cases hcuts with
    | text htype hholds hcuts =>
      rw [if_pos htype, hholds.joinStrings?_eq, ih hrest hcuts]
      cases texts message n (message.drop stop) <;> rfl
    | other htype hcuts =>
      rw [if_neg htype, ih hrest hcuts]
      cases texts message n (message.drop stop) <;> rfl

theorem placed_or_flawed (message : Bytes) (n start : Nat) :
    (∃ places stop, Placed message start places stop ∧ places.length = n ∧ ∀ place ∈ places,
      InOrder message place) ∨
      ∃ places stop e, Placed message start places stop ∧ places.length < n ∧
        (∀ place ∈ places, InOrder message place) ∧ Flawed message stop e := by
  induction n generalizing start with
  | zero => exact .inl ⟨[], start, .nil start, rfl, nofun⟩
  | succ n ih =>
    obtain ⟨e, hflawed⟩ | ⟨place, howner, horder⟩ := flawed_or_inOrder message start
    · exact .inr ⟨[], start, e, .nil start, Nat.succ_pos n, nofun, hflawed⟩
    · obtain ⟨places, stop, hplaced, hlength, hrest⟩ | ⟨places, stop, e, hplaced, hlength,
          hrest, hflawed⟩ :=
        ih (endAt message place)
      · exact .inl ⟨place :: places, stop, .cons howner hplaced, congrArg Nat.succ hlength,
          List.forall_mem_cons.2 ⟨horder, hrest⟩⟩
      · exact .inr ⟨place :: places, stop, e, .cons howner hplaced, Nat.succ_lt_succ hlength,
          List.forall_mem_cons.2 ⟨horder, hrest⟩, hflawed⟩

variable {h : Header}

def Begins (message : Bytes) (h : Header) (start : Nat) : Prop :=
  ∃ rest questions left, Header.read message = .ok (h, rest) ∧ h.truncated = false ∧
    Reader.replicate (WireQuestion.read message) h.questions.toNat rest = .ok (questions, left) ∧
    position message left = start

/-- The message has answers with these strings and all of them are in order. -/
def Tells (message : Bytes) (id : UInt16) (cuts : List (List Bytes)) : Prop :=
  ∃ h start places stop, Begins message h start ∧ h.id = id ∧ Placed message start places stop ∧
    places.length = h.answers.toNat ∧ (∀ place ∈ places, InOrder message place) ∧
      Cuts message places cuts

/-- Why a message is refused. All answers in front of the one that is at fault are in order. -/
inductive Refuses (message : Bytes) : Error → Prop where
  | header {e : CodecError} : Header.read message = .error e → Refuses message (.codec e)
  | questions {h : Header} {rest : Bytes} {e : CodecError} : Header.read message = .ok (h, rest) →
    h.truncated = false →
      Reader.replicate (WireQuestion.read message) h.questions.toNat rest = .error e →
    Refuses message (.codec e)
  | answers {h : Header} {start stop : Nat} {places : List Nat} {e : Error} :
    Begins message h start →
    Placed message start places stop → places.length < h.answers.toNat →
      (∀ place ∈ places, InOrder message place) →
    Flawed message stop e → Refuses message e

theorem read_of_begins (hbegins : Begins message h start) :
    read message = (texts message h.answers.toNat (message.drop start)).map (⟨h.id, false, ·⟩) := by
  obtain ⟨rest, questions, left, hheader, htruncated, hquestions, rfl⟩ := hbegins
  have hrest : rest <:+ message := Header.drop_of_read hheader ▸ List.drop_suffix 12 message
  have hleft : left <:+ message :=
    ((WireQuestion.leavesEnd_read message).replicate _ _ _ _ hquestions).trans hrest
  rw [drop_position hleft, read_of_questions hheader htruncated hquestions]

theorem read_of_tells {id : UInt16} {cuts : List (List Bytes)} (htells : Tells message id cuts) :
    read message = .ok ⟨id, false, cuts.map List.flatten⟩ := by
  obtain ⟨h, start, places, stop, hbegins, rfl, hplaced, hlength, horder, hcuts⟩ := htells
  have htexts := texts_of_placed hplaced horder hcuts 0
  rw [Nat.add_zero, hlength, texts, Except.map, List.append_nil] at htexts
  rw [read_of_begins hbegins, htexts]
  rfl

theorem read_of_refuses {e : Error} (hrefuses : Refuses message e) : read message = .error e := by
  cases hrefuses with
  | header hheader => rw [read, hheader]
  | questions hheader htruncated hquestions =>
    exact read_of_questions_error hheader htruncated hquestions
  | @answers h start stop places e hbegins hplaced hlength horder hflawed =>
    obtain ⟨cuts, hcuts⟩ := exists_cuts horder
    obtain ⟨n, hn⟩ := Nat.exists_eq_add_of_lt hlength
    have htexts := texts_of_placed hplaced horder hcuts (n + 1)
    rw [← Nat.add_assoc, ← hn, texts_of_flawed hflawed] at htexts
    rw [read_of_begins hbegins, htexts]
    rfl

theorem tells_or_refuses (message : Bytes) :
    (∃ h rest, Header.read message = .ok (h, rest) ∧ h.truncated = true) ∨
      (∃ id cuts, Tells message id cuts) ∨
      ∃ e, Refuses message e := by
  cases hheader : Header.read message with
  | error e => exact .inr (.inr ⟨_, .header hheader⟩)
  | ok r =>
    obtain ⟨h, rest⟩ := r
    cases htruncated : h.truncated with
    | true => exact .inl ⟨h, rest, rfl, htruncated⟩
    | false =>
      refine .inr ?_
      cases hquestions : Reader.replicate (WireQuestion.read message) h.questions.toNat rest with
      | error e => exact .inr ⟨_, .questions hheader htruncated hquestions⟩
      | ok r =>
        obtain ⟨questions, left⟩ := r
        have hbegins : Begins message h (position message left) :=
          ⟨rest, questions, left, hheader, htruncated, hquestions, rfl⟩
        obtain ⟨places, stop, hplaced, hlength, horder⟩ | ⟨places, stop, e, hplaced, hlength,
            horder, hflawed⟩ :=
          placed_or_flawed message h.answers.toNat (position message left)
        · obtain ⟨cuts, hcuts⟩ := exists_cuts horder
          exact .inl ⟨h.id, cuts, h, _, places, stop, hbegins, rfl, hplaced, hlength, horder, hcuts⟩
        · exact .inr ⟨e, .answers hbegins hplaced hlength horder hflawed⟩

theorem read_eq_ok_iff {id : UInt16} {payloads : List Bytes} :
    read message = .ok ⟨id, false, payloads⟩ ↔
    ∃ cuts, Tells message id cuts ∧ payloads = cuts.map List.flatten := by
  constructor
  · intro hread
    obtain ⟨h, rest, hheader, htruncated⟩ | ⟨id', cuts, htells⟩ | ⟨e, hrefuses⟩ :=
      tells_or_refuses message
    · rw [read_of_truncated hheader htruncated] at hread
      cases hread
    · rw [read_of_tells htells] at hread
      cases hread
      exact ⟨cuts, htells, rfl⟩
    · rw [read_of_refuses hrefuses] at hread
      cases hread
  · rintro ⟨cuts, htells, rfl⟩
    exact read_of_tells htells

theorem read_eq_error_iff {e : Error} : read message = .error e ↔ Refuses message e := by
  refine ⟨fun hread => ?_, read_of_refuses⟩
  obtain ⟨h, rest, hheader, htruncated⟩ | ⟨id', cuts, htells⟩ | ⟨e, hrefuses⟩ :=
    tells_or_refuses message
  · rw [read_of_truncated hheader htruncated] at hread
    cases hread
  · rw [read_of_tells htells] at hread
    cases hread
  · rw [read_of_refuses hrefuses] at hread
    cases hread
    exact hrefuses

/-- Where all owners can be read, the answers have to be in order and no more. -/
theorem exists_read_eq_ok_iff {places : List Nat} (hbegins : Begins message h start)
    (hplaced : Placed message start places stop) (hlength : places.length = h.answers.toNat) :
    (∃ reply, read message = .ok reply) ↔ ∀ place ∈ places, InOrder message place := by
  constructor
  · rintro ⟨reply, hread⟩
    obtain ⟨places', stop', hplaced', hlength', horder⟩ | ⟨places', stop', e, hplaced', hlength',
        horder, hflawed⟩ :=
      placed_or_flawed message h.answers.toNat start
    · rwa [hplaced'.unique hplaced (hlength.trans hlength'.symm)]
    · rw [read_of_refuses (.answers hbegins hplaced' hlength' horder hflawed)] at hread
      cases hread
  · intro horder
    obtain ⟨cuts, hcuts⟩ := exists_cuts horder
    exact ⟨_, read_of_tells ⟨h, start, places, stop, hbegins, rfl, hplaced, hlength, horder, hcuts⟩⟩

structure WalksAnswers (message : Bytes) : Prop where
  /-- Of a truncated message the header counts, whatever stands behind it. -/
  truncated : ∀ h rest, Header.read message = .ok (h, rest) → h.truncated = true →
    ∀ tail, read (message.take 12 ++ tail) = .ok ⟨h.id, true, []⟩
  /-- Where all owners can be read, the answers are accepted if and only if they are in order. -/
  decided : ∀ h start places stop, Begins message h start → Placed message start places stop →
    places.length = h.answers.toNat →
    ((∃ reply, read message = .ok reply) ↔ ∀ place ∈ places, InOrder message place)
  accepted : ∀ id payloads, read message = .ok ⟨id, false, payloads⟩ ↔
    ∃ cuts, Tells message id cuts ∧ payloads = cuts.map List.flatten
  refused : ∀ e, read message = .error e ↔ Refuses message e
  /-- Where a string ends and the next one begins makes no difference. -/
  cut_otherwise : ∀ other id cuts cuts', Tells message id cuts → Tells other id cuts' →
    (read message = read other ↔ cuts.map List.flatten = cuts'.map List.flatten)
  /-- The next answer begins where the data of this one end by their
  size, of whatever type they are. -/
  next : ∀ n start place, OwnerEnds message start place → InOrder message place →
    texts message (n + 1) (message.drop start) =
      (texts message n (message.drop (endAt message place))).map
      ((text? (typeAt message place, dataAt message place)).toList ++ ·)
  /-- In each turn over the data of a text a string comes off together with its
  length, so that less is left. -/
  turn : ∀ data, data = [] ∨ Overruns data ∨ ∃ piece left,
    data = UInt8.ofNat piece.length :: (piece ++ left) ∧
    left.length < data.length ∧ joinStrings? data = (joinStrings? left).map (piece ++ ·)
  /-- What is left after the last turn is nothing, or too short for its length whatever the
  message has behind the data. -/
  strings_taken : ∀ data, ∃ pieces left, data = strings pieces ++ left ∧
    data.length = pieces.length + pieces.flatten.length + left.length ∧
      (∀ piece ∈ pieces, piece.length < 256) ∧
    (left = [] ∧ joinStrings? data = some pieces.flatten ∨ Overruns left ∧ joinStrings? data = none)

/-- A client walks over the answers by the lengths that they announce. It reads the strings of the
TXT answers, joined, and is stopped by the first answer that is not in order. -/
theorem walks_over_answers (message : Bytes) : WalksAnswers message where
  truncated h rest hheader htruncated tail :=
    read_of_truncated (Header.read_take_append hheader tail) htruncated
  decided h start places stop hbegins hplaced hlength :=
    exists_read_eq_ok_iff hbegins hplaced hlength
  accepted id payloads := read_eq_ok_iff
  refused e := read_eq_error_iff
  cut_otherwise other id cuts cuts' h h' := by
    rw [read_of_tells h, read_of_tells h', Except.ok.injEq, Reply.mk.injEq]
    simp
  next n start place howner horder := texts_of_inOrder howner horder n
  turn data := by
    obtain hnil | hoverruns | ⟨piece, left, hpiece, rfl⟩ := string_cases data
    · exact .inl hnil
    · exact .inr (.inl hoverruns)
    · refine .inr (.inr ⟨piece, left, rfl, ?_, joinStrings?_cons_append hpiece left⟩)
      rw [List.length_cons, List.length_append]
      omega
  strings_taken data := by
    obtain ⟨pieces, left, rfl, hshort, hleft⟩ := exists_strings data
    refine ⟨pieces, left, rfl, ?_, hshort, ?_⟩
    · rw [List.length_append, length_strings]
    · rw [joinStrings?_strings_append hshort]
      obtain rfl | hoverruns := hleft
      · exact .inl ⟨rfl, by simp⟩
      · exact .inr ⟨hoverruns, by rw [joinStrings?_of_overruns hoverruns, Option.map_none]⟩

/-- Two ways to cut a text, a string that runs into the next answer, an answer without the last of
its ten bytes, and a truncated message. -/
theorem walks_over_answers_cut_otherwise :
    let front : Bytes :=
      [0x12, 0x34, 0x81, 0x80, 0, 1, 0, 3, 0, 0, 0, 0, 3, 0x63, 0x6f, 0x6d, 0, 0, 16, 0, 1]
    let fields (type size : UInt8) : Bytes := [0xc0, 12, 0, type, 0, 1, 0, 0, 0, 60, 0, size]
    let message (data : Bytes) : Bytes :=
      front ++ (fields 16 6 ++ (data ++ (fields 1 4 ++ ([192, 0, 2, 1] ++ fields 16 0))))
    let data : Bytes := [2, 0xff, 0, 1, 0x80, 0]
    let data' : Bytes := [0, 1, 0xff, 2, 0, 0x80]
    let long : Bytes := [2, 0xff, 0, 3, 0x80, 0]
    read (message data) = .ok ⟨0x1234, false, [[0xff, 0, 0x80], []]⟩ ∧
      read (message data) = read (message data') ∧
      read (message long) = .error (.dnsCrypt .invalidResponse) ∧
      read (front ++ (fields 16 6).take 11) = .error (.io .endOfStream) ∧
      read [0x12, 0x34, 0x83, 0x80, 0, 1, 0, 3, 0, 0, 0, 0, 0xff] = .ok ⟨0x1234, true, []⟩ := by
  intro front fields message data data' long
  let h : Header := ⟨0x1234, true, false, true, some .noError, 1, 3, 0, 0⟩
  let com : Name := ⟨[[0x63, 0x6f, 0x6d]]⟩
  have hbegins : ∀ rest, Begins (front ++ rest) h 21 := by
    intro rest
    have hheader := Header.read_append 0x8180 (by decide) rfl 0x1234 1 3 0 0 (front.drop 12 ++ rest)
    exact ⟨_, [⟨com, .txt, .internet⟩], rest, hheader, rfl, rfl, position_append front rest⟩
  have htells : ∀ a b c x y z pieces, Holds [a, b, c, x, y, z] pieces →
      Tells (message [a, b, c, x, y, z]) 0x1234 [pieces, []] := by
    intro a b c x y z pieces hholds
    let m := message [a, b, c, x, y, z]
    have hfirst : OwnerEnds m 21 23 := ⟨com, m.drop 23, rfl, rfl⟩
    have hsecond : OwnerEnds m 39 41 := ⟨com, m.drop 41, rfl, rfl⟩
    have hthird : OwnerEnds m 55 57 := ⟨com, m.drop 57, rfl, rfl⟩
    have htext : InOrder m 23 := ⟨(by decide : 39 ≤ 67), fun _ => ⟨pieces, hholds⟩⟩
    have haddress : InOrder m 41 :=
      ⟨(by decide : 55 ≤ 67), fun h => absurd h (by decide : RecordType.a ≠ .txt)⟩
    have hempty : InOrder m 57 := ⟨(by decide : 67 ≤ 67), fun _ => ⟨[], rfl, nofun⟩⟩
    have hplaced : Placed m 21 [23, 41, 57] 67 :=
      .cons hfirst (.cons hsecond (.cons hthird (.nil 67)))
    refine ⟨h, 21, [23, 41, 57], 67, hbegins _, rfl, hplaced, rfl, ?_, ?_⟩
    · simpa only [List.forall_mem_cons] using ⟨htext, haddress, hempty, nofun⟩
    · exact .text rfl hholds
        (.other (by decide : RecordType.a ≠ .txt) (.text rfl ⟨rfl, nofun⟩ .nil))
  have hdata : Tells (message data) 0x1234 [[[0xff, 0], [0x80], []], []] :=
    htells _ _ _ _ _ _ _ ⟨rfl, by decide⟩
  have hdata' : Tells (message data') 0x1234 [[[], [0xff], [0, 0x80]], []] :=
    htells _ _ _ _ _ _ _ ⟨rfl, by decide⟩
  have hlong : joinStrings? long = none := by
    refine (@joinStrings?_cons_append [0xff, 0] (by decide) [3, 0x80, 0]).trans ?_
    rw [joinStrings?_of_overruns ⟨3, [0x80, 0], rfl, by decide⟩, Option.map_none]
  refine ⟨?_, ?_, ?_, ?_, ?_⟩
  · exact ((walks_over_answers _).accepted _ _).2 ⟨_, hdata, rfl⟩
  · exact ((walks_over_answers _).cut_otherwise _ _ _ _ hdata hdata').2 rfl
  · have hfirst : OwnerEnds (message long) 21 23 := ⟨com, (message long).drop 23, rfl, rfl⟩
    have hflawed : Flawed (message long) 21 (.dnsCrypt .invalidResponse) :=
      .text hfirst (by decide) rfl (joinStrings?_eq_none_iff.1 hlong)
    exact ((walks_over_answers _).refused _).2
      (.answers (hbegins _) (.nil 21) (by decide) nofun hflawed)
  · let m := front ++ (fields 16 6).take 11
    have hflawed : Flawed m 21 (.io .endOfStream) :=
      .fields ⟨com, m.drop 23, rfl, rfl⟩ (by decide : 32 < 33)
    exact ((walks_over_answers _).refused _).2
      (.answers (hbegins _) (.nil 21) (by decide) nofun hflawed)
  · have hheader := Header.read_append 0x8380 (by decide) rfl 0x1234 1 3 0 0 []
    exact (walks_over_answers _).truncated _ _ hheader rfl [0xff]

end StubResolver.Publication
