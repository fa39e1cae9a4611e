import Mathlib.Data.List.TakeWhile
import Mathlib.Order.Bounds.Defs
import StubResolver.DnsCrypt.Padding

set_option autoImplicit false

namespace StubResolver.DnsCrypt.Padding

theorem dropWhile_zeros (n : Nat) (b : Bytes) :
    (Bytes.zeros n ++ b).dropWhile (· = 0) = b.dropWhile (· = 0) := by
  induction n with
  | zero => rfl
  | succ n ih => simp [Bytes.zeros, List.replicate_succ]

/-- The padding of a message is one marker and zeros. -/
theorem unpad_eq_ok_iff {b message : Bytes} :
    unpad b = .ok message ↔ ∃ n, b = message ++ marker :: Bytes.zeros n := by
  constructor
  · intro h
    rw [unpad] at h
    split at h
    · cases h
    · next x r hback =>
      split at h
      · next hx =>
        cases h
        obtain ⟨n, hzeros⟩ : ∃ n, b.reverse.takeWhile (· = 0) = Bytes.zeros n := by
          refine ⟨_, List.eq_replicate_of_mem fun y hy => ?_⟩
          simpa using List.mem_takeWhile_imp hy
        have hb := List.takeWhile_append_dropWhile (p := (· = 0)) (l := b.reverse)
        rw [hback, hzeros, hx] at hb
        refine ⟨n, ?_⟩
        rw [← List.reverse_reverse b, ← hb]
        simp [Bytes.zeros]
      · cases h
  · rintro ⟨n, rfl⟩
    have hreverse : (message ++ marker :: Bytes.zeros n).reverse =
        Bytes.zeros n ++ marker :: message.reverse := by
      simp [Bytes.zeros]
    have hmarker : (marker :: message.reverse).dropWhile (· = 0) = marker :: message.reverse := by
      simp [marker]
    rw [unpad, hreverse, dropWhile_zeros, hmarker]
    simp

theorem unpad_eq_error_iff {b : Bytes} {e : Error} :
    unpad b = .error e ↔ e = .invalidPadding ∧ ∀ message n,
      b ≠ message ++ marker :: Bytes.zeros n := by
  have hokay : (∀ message n, b ≠ message ++ marker :: Bytes.zeros n) ↔
      ∀ message, unpad b ≠ .ok message := by
    simp only [Ne, unpad_eq_ok_iff, not_exists]
  rw [hokay]
  unfold unpad
  split
  · simp [eq_comm]
  · split
    · simp
    · simp [eq_comm]

theorem unpad_padTo (minimum : Nat) (b : Bytes) : unpad (padTo minimum b) = .ok b :=
  unpad_eq_ok_iff.2 ⟨_, rfl⟩

theorem paddedSize_pos (minimum size : Nat) : 64 ≤ paddedSize minimum size := by
  unfold paddedSize blockSize
  omega

theorem isLeast_paddedSize (minimum size : Nat) :
    IsLeast {n | 64 ∣ n ∧ max minimum (size + 1) ≤ n} (paddedSize minimum size) := by
  unfold paddedSize blockSize
  constructor
  · exact ⟨Nat.dvd_mul_left 64 _, by omega⟩
  · intro n hn
    obtain ⟨⟨blocks, rfl⟩, hmax⟩ := hn
    omega

def Pads (message b : Bytes) : Prop := ∃ n, b = message ++ 0x80 :: Bytes.zeros n

theorem pads_padTo (minimum : Nat) (message : Bytes) :
    Pads message (padTo minimum message) := ⟨_, rfl⟩

theorem Pads.unique {message other b : Bytes} (h : Pads message b)
    (h' : Pads other b) : other = message := by
  have hmessage : unpad b = .ok message := unpad_eq_ok_iff.2 h
  have hother : unpad b = .ok other := unpad_eq_ok_iff.2 h'
  exact Except.ok.inj (hother.symm.trans hmessage)

/--
A message is padded to the least multiple of 64 bytes that has room for the marker and is
not below the minimum. Bytes are taken for a message exactly if they are it with its
padding, whatever the message ends in. There is no other such message, so that no two
messages are padded to the same bytes.
-/
theorem padding_laws :
    (∀ minimum message, Pads message (padTo minimum message) ∧
      IsLeast {n | 64 ∣ n ∧ max minimum (message.length + 1) ≤ n} (padTo minimum message).length ∧
      unpad (padTo minimum message) = .ok message) ∧
    (∀ message, pad message = padTo 256 message) ∧
    (∀ b message, unpad b = .ok message ↔ Pads message b) ∧
    (∀ b e, unpad b = .error e ↔ e = .invalidPadding ∧ ∀ message, ¬ Pads message b) ∧
    (∀ b message, Pads message b → ∀ other, Pads other b → other = message) ∧
    (∀ minimum, Function.Injective (padTo minimum)) ∧ Function.Injective pad := by
  have hinjective : ∀ minimum, Function.Injective (padTo minimum) := by
    intro minimum other message h
    have hother : Pads other (padTo minimum message) := h ▸ pads_padTo minimum other
    exact (pads_padTo minimum message).unique hother
  refine ⟨fun minimum message => ⟨pads_padTo minimum message, ?_, unpad_padTo minimum message⟩,
    fun _ => rfl, fun b message => unpad_eq_ok_iff, fun b e => ?_,
    fun b message h other => h.unique, hinjective, hinjective minQuerySize⟩
  · rw [length_padTo]
    exact isLeast_paddedSize minimum message.length
  · simp only [unpad_eq_error_iff, Pads, not_exists]
    rfl

/-- Bytes in which a marker stands twice, and bytes in which none stands before the zeros. -/
theorem padding_laws_marked :
    let message : Bytes := [0x12, 0x80, 0, 0x80, 0, 0]
    let b := message ++ [0x80, 0]
    Pads message b ∧ unpad b = .ok message ∧ ¬ Pads [0x12, 0x80, 0] b ∧
      unpad (pad message) = .ok message ∧ (pad message).length = 256 ∧
      unpad [0x12, 0x80, 0, 1] = .error .invalidPadding := by
  intro message b
  obtain ⟨hpad, -, hok, -, hunique, -, -⟩ := padding_laws
  have hpads : Pads message b := ⟨1, rfl⟩
  refine ⟨hpads, (hok b message).2 hpads, fun h => ?_, (hpad 256 message).2.2, ?_, by decide⟩
  · exact absurd (hunique b message hpads _ h) (by decide)
  · rw [pad, length_padTo]
    decide

end StubResolver.DnsCrypt.Padding
