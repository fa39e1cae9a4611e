import StubResolver.Proofs.Bytes
import StubResolver.Proofs.Task
import StubResolver.Rehearsal

set_option autoImplicit false

namespace StubResolver

namespace Frame

theorem read_append_of_write {message frame : Bytes} (h : write message = .ok frame)
    (tail : Bytes) :
    read (frame ++ tail) = .ok (message, tail) := by
  unfold write at h
  split at h
  · next hlen =>
    cases h
    have hsize : Bytes.toNatBE (Bytes.ofNatBE 2 message.length) = message.length := by
      rw [Bytes.toNatBE_ofNatBE]
      exact Nat.mod_eq_of_lt hlen
    have hhead : ∃ a b, Bytes.ofNatBE 2 message.length = [a, b] := ⟨_, _, rfl⟩
    obtain ⟨a, b, hab⟩ := hhead
    rw [hab] at hsize ⊢
    have happ : [a, b] ++ message ++ tail = a :: b :: (message ++ tail) := by simp
    rw [happ, read, hsize, Bytes.split?_append]
  · cases h

theorem write_of_length_lt {message : Bytes} (h : message.length < 65536) :
    write message = .ok (Bytes.ofNatBE 2 message.length ++ message) := by
  rw [write, if_pos h]

theorem write_eq_error_iff {message : Bytes} {e : IoError} :
    write message = .error e ↔ 65535 < message.length ∧ e = tooLong message.length := by
  rw [write]
  split
  · next hlen => exact ⟨nofun, fun h => absurd hlen (Nat.not_lt.2 h.1)⟩
  · next hlen =>
    rw [Except.error.injEq, eq_comm]
    exact ⟨fun h => ⟨Nat.le_of_not_lt hlen, h⟩, fun h => h.2⟩

theorem read_of_not_ok {stream : Bytes} (h : ∀ p, read stream ≠ .ok p) :
    read stream = .error .endOfStream := by
  unfold read at h ⊢
  split
  · split
    · next p hsplit => exact absurd (by simp only [hsplit]) (h p)
    · rfl
  · rfl

/-- What can be read is the message of a frame in front of the stream. -/
theorem read_eq_ok_iff {stream message rest : Bytes} :
    read stream = .ok (message, rest) ↔ ∃ frame, write message = .ok frame ∧
      stream = frame ++ rest := by
  constructor
  · intro h
    unfold read at h
    split at h
    · next a b received =>
      split at h
      · next p hsplit =>
        cases h
        obtain ⟨rfl, hlength⟩ := Bytes.append_of_split? hsplit
        have hlt : Bytes.toNatBE [a, b] < 65536 := by simpa using Bytes.toNatBE_lt [a, b]
        have hhead : Bytes.ofNatBE 2 (Bytes.toNatBE [a, b]) = [a, b] := Bytes.ofNatBE_toNatBE [a, b]
        refine ⟨_, write_of_length_lt (hlength ▸ hlt), ?_⟩
        rw [hlength, hhead]
        rfl
      · cases h
    · cases h
  · rintro ⟨frame, hwrite, rfl⟩
    exact read_append_of_write hwrite rest

/-- No frame is the beginning of another. -/
theorem read_of_prefix {message frame part : Bytes} (hwrite : write message = .ok frame)
    (hpart : part <+: frame) (hne : part ≠ frame) : read part = .error .endOfStream := by
  refine read_of_not_ok fun ⟨other, rest⟩ hread => hne ?_
  obtain ⟨missing, rfl⟩ := hpart
  obtain ⟨start, hstart, rfl⟩ := read_eq_ok_iff.1 hread
  have hwhole := read_append_of_write hwrite []
  rw [List.append_nil, List.append_assoc, read_append_of_write hstart] at hwhole
  obtain ⟨-, hrest⟩ := Prod.mk.inj (Except.ok.inj hwhole)
  rw [(List.append_eq_nil_iff.1 hrest).2, List.append_nil]

def readEach : Nat → Bytes → Except IoError (List Bytes × Bytes)
  | 0, stream => .ok ([], stream)
  | n + 1, stream => do
    let (message, stream) ← read stream
    let (messages, stream) ← readEach n stream
    return (message :: messages, stream)

theorem readEach_of_writes {messages : List Bytes} (h : ∀ m ∈ messages, m.length ≤ 65535)
    (tail : Bytes) :
    ∃ frames, messages.mapM write = .ok frames ∧
      readEach messages.length (frames.flatten ++ tail) = .ok (messages, tail) := by
  induction messages with
  | nil => exact ⟨[], rfl, rfl⟩
  | cons m messages ih =>
    obtain ⟨hm, hrest⟩ := List.forall_mem_cons.1 h
    obtain ⟨frames, hwrites, hreads⟩ := ih hrest
    obtain ⟨frame, hwrite⟩ : ∃ frame, write m = .ok frame :=
      ⟨_, write_of_length_lt (Nat.lt_succ_of_le hm)⟩
    refine ⟨frame :: frames, ?_, ?_⟩
    · rw [List.mapM_cons, hwrite, hwrites]
      rfl
    · rw [List.flatten_cons, List.append_assoc, List.length_cons, readEach,
        read_append_of_write hwrite]
      dsimp only [bind, Except.bind]
      rw [hreads]
      rfl

end Frame

namespace Exchange

variable {σ : Type} {env : Environment σ} {ns : Nameserver} {family : Family} {timeout : Duration}
  {message : Bytes}
  {s t : σ} {e : IoError}

theorem tcp_of_write_error (hwrite : Frame.write message = .error e)
    (hdial : env.dial ⟨.tcp, ns, family, timeout⟩ s = (.ok (), t)) :
    tcp env ns family timeout message s = (.error (.io e), t) := by
  rw [tcp, Task.bind_apply, Task.io_apply, hdial]
  dsimp only [Except.mapError]
  rw [Task.bind_apply, Task.ofExcept_apply, hwrite]
  rfl

theorem tls_of_write_error (hwrite : Frame.write message = .error e)
    (hdial : env.dial ⟨.tcp, ns, family, timeout⟩ s = (.ok (), t)) (serverName : String)
    (verify : Bool) :
    tls env ns family timeout serverName verify message s = (.error (.io e), t) := by
  rw [tls, Task.bind_apply, Task.io_apply, hdial]
  dsimp only [Except.mapError]
  rw [Task.bind_apply, Task.ofExcept_apply, hwrite]
  rfl

end Exchange

namespace Frame

structure SelfDelimiting : Prop where
  read_back : ∀ messages tail, (∀ m ∈ messages, m.length ≤ 65535) →
    ∃ frames, messages.mapM write = .ok frames ∧
    readEach messages.length (frames.flatten ++ tail) = .ok (messages, tail)
  refused : ∀ message e, write message = .error e ↔
    65535 < message.length ∧ e = tooLong message.length
  /-- Of a message that is refused nothing is sent, not even the first message of a handshake. -/
  unsent : ∀ (σ : Type) (env : Environment σ) ns family timeout message s t,
    65535 < message.length →
    env.dial ⟨.tcp, ns, family, timeout⟩ s = (.ok (), t) →
    Exchange.tcp env ns family timeout message s = (.error (.io (tooLong message.length)), t) ∧
      ∀ serverName verify, Exchange.tls env ns family timeout serverName verify message s =
        (.error (.io (tooLong message.length)), t)
  incomplete : ∀ message frame part, write message = .ok frame → part <+: frame → part ≠ frame →
    read part = .error .endOfStream
  consumed : ∀ stream message rest,
    read stream = .ok (message, rest) ↔ ∃ frame, write message = .ok frame ∧ stream = frame ++ rest

/-- Messages are read back one after the other, whatever follows their frames on the stream. What is
too long for a length of two bytes is never sent, and no part of a frame is taken for a message. -/
theorem frames_delimit : SelfDelimiting where
  read_back _ tail h := readEach_of_writes h tail
  refused _ _ := write_eq_error_iff
  unsent _ _ _ _ _ _ _ _ hlength hdial :=
    have hwrite := write_eq_error_iff.2 ⟨hlength, rfl⟩
    ⟨Exchange.tcp_of_write_error hwrite hdial, Exchange.tls_of_write_error hwrite hdial⟩
  incomplete _ _ _ hwrite hpart hne := read_of_prefix hwrite hpart hne
  consumed _ _ _ := read_eq_ok_iff

/-- An empty message, another one and the beginning of a third, and a message
that is too long by a byte. -/
theorem frames_delimit_up_to_part :
    let messages : List Bytes := [[], [1, 2, 3]]
    let part : Bytes := [0, 5, 7]
    let ns : Nameserver := ⟨"192.0.2.1", some (.v4 ⟨192, 0, 2, 1⟩), 53⟩
    let long := Bytes.zeros 65536
    let w :=
      Rehearsal.World.start .up [⟨none, .zero, none, 0, none, 200, "OK", false, none, none⟩] []
    (∀ m ∈ messages, m.length ≤ 65535) ∧
      (∃ frames, messages.mapM write = .ok frames ∧
        readEach 2 (frames.flatten ++ part) = .ok (messages, part)) ∧
      read part = .error .endOfStream ∧ write long = .error (tooLong 65536) ∧
      Exchange.tcp Rehearsal.environment ns .any .zero long w =
        (.error (.io (tooLong 65536)),
          (Rehearsal.environment.dial ⟨.tcp, ns, .any, .zero⟩ w).2) := by
  intro messages part ns long w
  have hshort : ∀ m ∈ messages, m.length ≤ 65535 := by decide
  have hlength : long.length = 65536 := Bytes.length_zeros 65536
  have hlong : 65535 < long.length := by omega
  refine ⟨hshort, frames_delimit.read_back messages part hshort, ?_, ?_, ?_⟩
  · exact frames_delimit.incomplete [7, 8, 9, 10, 11] _ part rfl (by decide) (by decide)
  · exact (frames_delimit.refused long _).2 ⟨hlong, by rw [hlength]⟩
  · rw [← hlength]
    exact (frames_delimit.unsent _ Rehearsal.environment ns .any .zero long w _ hlong rfl).1

end Frame

end StubResolver
