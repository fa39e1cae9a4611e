import Mathlib.Data.List.Infix
import StubResolver.Message
import StubResolver.Proofs.Bytes

set_option autoImplicit false

namespace StubResolver

theorem exists_of_bind {ε α β : Type} {x : Except ε α} {f : α → Except ε β} {b : β}
    (h : (x >>= f) = .ok b) :
    ∃ a, x = .ok a ∧ f a = .ok b := by
  cases x with
  | error e => cases h
  | ok a => exact ⟨a, rfl, h⟩

theorem Reader.exists_of_bind {α β : Type} {x : Reader α} {f : α → Reader β} {b : Bytes}
    {r : β × Bytes} (h : (x >>= f) b = .ok r) :
    ∃ a rest, x b = .ok (a, rest) ∧ f a rest = .ok r := by
  obtain ⟨p, hp, hf⟩ := StubResolver.exists_of_bind h
  exact ⟨p.1, p.2, hp, hf⟩

theorem Reader.append_of_u16 {b rest : Bytes} {n : UInt16} (h : u16 b = .ok (n, rest)) :
    b = Bytes.ofUInt16 n ++ rest := by
  obtain ⟨front, rest', hfront, hn⟩ := exists_of_bind h
  rw [bytes] at hfront
  split at hfront
  · next hsplit =>
    cases hfront
    cases hn
    obtain ⟨rfl, hlength⟩ := Bytes.append_of_split? hsplit
    rw [Bytes.ofUInt16_toUInt16 hlength]
  · cases hfront

theorem Reader.of_lift {α : Type} {x : Except CodecError α} {b rest : Bytes} {a : α}
    (h : (liftM x : Reader α) b = .ok (a, rest)) : x = .ok a ∧ rest = b := by
  cases x with
  | error e => cases h
  | ok a =>
    cases h
    exact ⟨rfl, rfl⟩

theorem Reader.u16_append (n : UInt16) (rest : Bytes) :
    u16 (Bytes.ofUInt16 n ++ rest) = .ok (n, rest) := by
  have hsplit := Bytes.split?_append (Bytes.ofUInt16 n) rest
  rw [Bytes.length_ofUInt16] at hsplit
  have hbytes : bytes 2 (Bytes.ofUInt16 n ++ rest) = .ok (Bytes.ofUInt16 n, rest) := by
    rw [bytes, hsplit]
  simp only [u16, bind, StateT.bind, Except.bind, hbytes, Bytes.toUInt16_ofUInt16]
  rfl

def Reader.LeavesEnd {α : Type} (r : Reader α) : Prop :=
  ∀ b a rest, r b = .ok (a, rest) → rest <:+ b

namespace Reader.LeavesEnd

theorem pure {α : Type} (a : α) : LeavesEnd (Pure.pure a) := by
  intro b a' rest h
  cases h
  exact List.suffix_refl b

theorem throw {α : Type} (e : CodecError) : LeavesEnd (MonadExcept.throw e : Reader α) :=
  fun _ _ _ h => nomatch h

theorem bind {α β : Type} {r : Reader α} {f : α → Reader β} (hr : LeavesEnd r)
    (hf : ∀ a, LeavesEnd (f a)) :
    LeavesEnd (r >>= f) := by
  intro b a rest h
  obtain ⟨x, left, hx, h⟩ := Reader.exists_of_bind h
  exact (hf x left a rest h).trans (hr b x left hx)

theorem bytes (n : Nat) : LeavesEnd (Reader.bytes n) := by
  intro b a rest h
  rw [Reader.bytes] at h
  split at h
  · next hsplit =>
    cases h
    exact (Bytes.append_of_split? hsplit).1 ▸ List.suffix_append a rest
  · cases h

theorem u8 : LeavesEnd Reader.u8 := by
  intro b a rest h
  cases b with
  | nil => cases h
  | cons x b =>
    cases h
    exact List.suffix_cons a rest

theorem u16 : LeavesEnd Reader.u16 := (bytes 2).bind fun _ => pure _

theorem replicate {α : Type} {r : Reader α} (hr : LeavesEnd r) (n : Nat) :
    LeavesEnd (r.replicate n) := by
  induction n with
  | zero => exact pure []
  | succ n ih => exact hr.bind fun a => ih.bind fun l => pure (a :: l)

end Reader.LeavesEnd

open Reader (LeavesEnd)

theorem Name.leavesEnd_readLabels (message : Bytes) (compression : Bool) (steps : Bytes) :
    LeavesEnd (readLabels message compression steps) := by
  induction steps with
  | nil => exact .throw _
  | cons step steps ih =>
    refine LeavesEnd.u8.bind fun c => ?_
    split
    · exact .pure []
    · split
      · exact (LeavesEnd.bytes _).bind fun l => ih.bind fun ls => .pure (l :: ls)
      · split
        · exact .throw _
        · refine LeavesEnd.u8.bind fun d => ?_
          dsimp only
          -- What a pointer leads to is read elsewhere, and nothing of it is left here.
          split
          · exact .pure _
          · exact .throw _

theorem Name.leavesEnd_read (message : Bytes) (compression : Bool) :
    LeavesEnd (read message compression) :=
  (leavesEnd_readLabels message compression _).bind fun _ => .pure _

theorem RecordClass.leavesEnd_read : LeavesEnd RecordClass.read := by
  refine LeavesEnd.u16.bind fun n => ?_
  split
  · exact .pure _
  · exact .throw _

theorem WireQuestion.leavesEnd_read (message : Bytes) : LeavesEnd (read message) :=
  (Name.leavesEnd_read message true).bind fun _ =>
    LeavesEnd.u16.bind fun _ => RecordClass.leavesEnd_read.bind fun _ => .pure _

namespace Header

theorem append_of_read {b rest : Bytes} {h : Header} (hr : read b = .ok (h, rest)) :
    ∃ (flags : UInt16) (rcode : Rcode),
      assignedOpcodes.contains (flags.toNat / 0x0800 % 16) = true ∧
      Rcode.ofCode (flags.toNat % 16) = .ok rcode ∧
      h = ⟨h.id, flags &&& 0x8000 != 0, flags &&& 0x0200 != 0, flags &&& 0x0100 != 0,
        if flags &&& 0x8000 != 0 then some rcode else none, h.questions, h.answers, h.authorities,
        h.additionals⟩ ∧
      b = Bytes.ofUInt16 h.id ++
        (Bytes.ofUInt16 flags ++ (Bytes.ofUInt16 h.questions ++ (Bytes.ofUInt16 h.answers ++
        (Bytes.ofUInt16 h.authorities ++ (Bytes.ofUInt16 h.additionals ++ rest))))) := by
  unfold read at hr
  obtain ⟨id, rest1, hid, hr⟩ := Reader.exists_of_bind hr
  obtain ⟨flags, rest2, hflags, hr⟩ := Reader.exists_of_bind hr
  dsimp only at hr
  split at hr
  · next hopcode =>
    obtain ⟨rcode, rest3, hrcode, hr⟩ := Reader.exists_of_bind hr
    obtain ⟨questions, rest4, hquestions, hr⟩ := Reader.exists_of_bind hr
    obtain ⟨answers, rest5, hanswers, hr⟩ := Reader.exists_of_bind hr
    obtain ⟨authorities, rest6, hauthorities, hr⟩ := Reader.exists_of_bind hr
    obtain ⟨additionals, rest7, hadditionals, hr⟩ := Reader.exists_of_bind hr
    cases hr
    obtain ⟨hcode, rfl⟩ := Reader.of_lift hrcode
    refine ⟨flags, rcode, hopcode, hcode, rfl, ?_⟩
    rw [← Reader.append_of_u16 hadditionals, ← Reader.append_of_u16 hauthorities,
      ← Reader.append_of_u16 hanswers, ← Reader.append_of_u16 hquestions,
      ← Reader.append_of_u16 hflags, ← Reader.append_of_u16 hid]
  · cases hr

theorem truncated_of_read {b rest : Bytes} {h : Header} (hr : read b = .ok (h, rest)) :
    h.truncated = (Bytes.toUInt16 ((b.drop 2).take 2) &&& 0x0200 != 0) := by
  obtain ⟨flags, rcode, -, -, hh, hb⟩ := append_of_read hr
  rw [hh, hb, List.drop_left' (Bytes.length_ofUInt16 _), List.take_left' (Bytes.length_ofUInt16 _),
    Bytes.toUInt16_ofUInt16]

theorem read_append (flags : UInt16) {rcode : Rcode}
    (hopcode : assignedOpcodes.contains (flags.toNat / 0x0800 % 16) = true)
    (hrcode : Rcode.ofCode (flags.toNat % 16) = .ok rcode)
    (id questions answers authorities additionals : UInt16) (rest : Bytes) :
    read (Bytes.ofUInt16 id ++
      (Bytes.ofUInt16 flags ++ (Bytes.ofUInt16 questions ++ (Bytes.ofUInt16 answers ++
      (Bytes.ofUInt16 authorities ++ (Bytes.ofUInt16 additionals ++ rest)))))) =
      .ok (⟨id, flags &&& 0x8000 != 0, flags &&& 0x0200 != 0, flags &&& 0x0100 != 0,
        if flags &&& 0x8000 != 0 then some rcode else none, questions, answers,
        authorities, additionals⟩,
        rest) := by
  have hlift : ∀ rest : Bytes,
      (liftM (Except.ok rcode : Except CodecError Rcode) : Reader Rcode) rest =
      .ok (rcode, rest) := fun _ => rfl
  simp only [read, bind, StateT.bind, Except.bind, Reader.u16_append]
  rw [if_pos hopcode, hrcode]
  simp only [StateT.bind, bind, Except.bind, hlift, Reader.u16_append]
  rfl

theorem drop_of_read {b rest : Bytes} {h : Header}
    (hr : read b = .ok (h, rest)) : rest = b.drop 12 := by
  obtain ⟨flags, rcode, -, -, -, hb⟩ := append_of_read hr
  rw [hb]
  simp only [← List.append_assoc]
  rw [List.drop_left']
  simp

theorem read_take_append {b rest : Bytes} {h : Header} (hr : read b = .ok (h, rest))
    (tail : Bytes) :
    read (b.take 12 ++ tail) = .ok (h, tail) := by
  obtain ⟨flags, rcode, hopcode, hrcode, hh, hb⟩ := append_of_read hr
  have hfront : b.take 12 ++ rest = b := by rw [drop_of_read hr, List.take_append_drop]
  have hread :=
    read_append flags hopcode hrcode h.id h.questions h.answers h.authorities h.additionals tail
  rw [← hh] at hread
  rw [← hfront] at hb
  simp only [← List.append_assoc] at hb hread
  rw [List.append_cancel_right hb]
  exact hread

end Header

end StubResolver
