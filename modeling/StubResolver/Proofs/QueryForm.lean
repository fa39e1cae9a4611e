import StubResolver.Proofs.NameForm

set_option autoImplicit false

namespace StubResolver

theorem Reader.bytes_append (b rest : Bytes) : bytes b.length (b ++ rest) = .ok (b, rest) := by
  rw [bytes, Bytes.split?_append]

namespace Name

theorem and_mask_of_le {n : Nat} (h : n ≤ 63) : UInt8.ofNat n &&& 0xc0 = 0 := by
  decide +revert

theorem readLabels_append (message : Bytes) (compression : Bool) {ls : List Bytes}
    (h : Short ls) {steps : Bytes} (hsteps : ls.length < steps.length) (rest : Bytes) :
    readLabels message compression steps
      (ls.flatMap (fun l => UInt8.ofNat l.length :: l) ++ 0 :: rest) =
      .ok (ls, rest) := by
  induction ls generalizing steps with
  | nil =>
    obtain ⟨step, steps, rfl⟩ := List.exists_cons_of_length_pos hsteps
    rfl
  | cons l ls ih =>
    obtain ⟨step, steps, rfl⟩ := List.exists_cons_of_length_pos (Nat.zero_lt_of_lt hsteps)
    obtain ⟨⟨hne, hlength⟩, hls⟩ := List.forall_mem_cons.1 h
    have hrest := ih hls (Nat.lt_of_succ_lt_succ hsteps)
    have hcount : (UInt8.ofNat l.length).toNat = l.length :=
      UInt8.toNat_ofNat_of_lt (Nat.lt_of_le_of_lt hlength (by decide))
    have hzero : UInt8.ofNat l.length ≠ 0 := by
      intro hzero
      rw [hzero] at hcount
      exact hne (List.length_eq_zero_iff.1 hcount.symm)
    rw [List.flatMap_cons, List.cons_append, List.cons_append, List.append_assoc]
    simp only [readLabels, Reader.u8, bind, StateT.bind, Except.bind, if_neg hzero,
      if_pos (and_mask_of_le hlength), hcount, Reader.bytes_append, hrest]
    rfl

theorem read_append {message : Bytes} {n : Name} (h : Short n.labels)
    (hlabels : n.labels.length ≤ message.length) (compression : Bool) (rest : Bytes) :
    read message compression (n.encode ++ rest) = .ok (n, rest) := by
  have hsteps : n.labels.length < (0 :: message : Bytes).length := Nat.lt_succ_of_le hlabels
  have hread := readLabels_append message compression h hsteps rest
  rw [encode, List.append_assoc, List.singleton_append]
  simp only [read, bind, StateT.bind, Except.bind, hread]
  rfl

theorem length_labels_le (n : Name) : n.labels.length ≤ n.encode.length := by
  rw [length_encode]
  induction n.labels with
  | nil => exact Nat.zero_le _
  | cons l ls ih =>
    rw [weight_cons, List.length_cons]
    omega

end Name

theorem RecordClass.ofCode?_code (c : RecordClass) : ofCode? c.code = some c := by
  cases c <;> rfl

theorem WireQuestion.read_append {message : Bytes} {q : WireQuestion} (h : Name.Short q.name.labels)
    (hlabels : q.name.labels.length ≤ message.length) (rest : Bytes) :
    read message (q.encode ++ rest) = .ok (q, rest) := by
  have hname := Name.read_append h hlabels true
    (Bytes.ofUInt16 q.type.code ++ (Bytes.ofUInt16 q.recordClass.code ++ rest))
  rw [encode, List.append_assoc, List.append_assoc]
  simp only [read, RecordClass.read, bind, StateT.bind, Except.bind, hname, Reader.u16_append,
    RecordClass.ofCode?_code]
  rfl

namespace Query

def asMessage (q : Query) : Message :=
  { header := ⟨q.id, false, false, true, none, 1, 0, 0, 0⟩
    questions := [q.question]
    answers := []
    authorities := []
    additionals := [] }

theorem readHeader_encode (q : Query) :
    Header.read q.encode = .ok (q.asMessage.header, q.question.encode) := by
  have hcounts : ([0, 1, 0, 0, 0, 0, 0, 0] : Bytes) =
      Bytes.ofUInt16 1 ++ (Bytes.ofUInt16 0 ++ (Bytes.ofUInt16 0 ++ Bytes.ofUInt16 0)) := by decide
  simp only [encode, hcounts, List.append_assoc]
  have hrcode : Rcode.ofCode (flags.toNat % 16) = .ok .noError := rfl
  exact Header.read_append flags rfl hrcode q.id 1 0 0 0 q.question.encode

theorem decode_encode {q : Query} (h : Name.Short q.question.name.labels) :
    Message.decode q.encode = .ok q.asMessage := by
  have hlabels : q.question.name.labels.length ≤ q.encode.length := by
    have hname := q.question.name.length_labels_le
    rw [encode, WireQuestion.encode]
    simp only [List.length_append]
    omega
  have hquestion := WireQuestion.read_append h hlabels []
  rw [List.append_nil] at hquestion
  have hbody : Message.readBody q.encode q.asMessage.header q.question.encode =
      .ok (q.asMessage, []) := by
    have hone : q.asMessage.header.questions.toNat = 1 := rfl
    have hnone : q.asMessage.header.answers.toNat = 0 ∧ q.asMessage.header.authorities.toNat = 0 ∧
      q.asMessage.header.additionals.toNat = 0 := ⟨rfl, rfl, rfl⟩
    simp only [Message.readBody, hone, hnone, Reader.replicate, bind, StateT.bind,
      Except.bind, hquestion]
    rfl
  simp only [Message.decode, q.readHeader_encode, bind, Except.bind, hbody]
  rfl

end Query

end StubResolver
