import StubResolver.Crypto.SecretBox
import StubResolver.Proofs.Bytes

set_option autoImplicit false

namespace StubResolver.SecretBox

def Blockwise (c : StreamCipher) : Prop := ∀ key nonce i, (c.block key nonce i).length = 64

theorem length_bytesOf (ws : List UInt32) : (Words.bytesOf ws).length = 4 * ws.length := by
  induction ws with
  | nil => rfl
  | cons w ws ih =>
    simp only [Words.bytesOf, List.flatMap_cons, List.length_append, Bytes.length_ofNatLE,
      List.length_cons] at ih ⊢
    omega

theorem blockwise_salsa : Blockwise .salsa := fun _ _ _ => by
  simp [StreamCipher.salsa, Salsa20.block, length_bytesOf, Words.toList]

theorem blockwise_chaCha : Blockwise .chaCha := fun _ _ _ => by
  simp [StreamCipher.chaCha, ChaCha20.block, length_bytesOf, Words.toList]

theorem length_flatMap_range {f : Nat → Bytes} (hf : ∀ i, (f i).length = 64) (n : Nat) :
    ((List.range n).flatMap f).length = 64 * n := by
  induction n with
  | zero => rfl
  | succ n ih =>
    rw [List.range_succ, List.flatMap_append, List.length_append, ih]
    simp [hf]
    omega

theorem le_length_keyStream {c : StreamCipher} (hc : Blockwise c) (key nonce : Bytes) (n : Nat) :
    n ≤ (keyStream c key nonce n).length := by
  unfold keyStream
  rw [length_flatMap_range (hc _ _)]
  omega

theorem length_apply {c : StreamCipher} (hc : Blockwise c) (key nonce text : Bytes) :
    (apply c key nonce text).2.length = text.length := by
  have hks := le_length_keyStream hc key nonce (text.length + 32)
  simp only [apply, Bytes.length_xor, List.length_drop]
  omega

theorem length_encrypt {c : StreamCipher} (hc : Blockwise c) (key nonce plain : Bytes) :
    (encrypt c key nonce plain).length = 16 + plain.length := by
  simp [encrypt, length_apply hc]

theorem apply_apply {c : StreamCipher} (hc : Blockwise c) (key nonce text : Bytes) :
    apply c key nonce (apply c key nonce text).2 = ((apply c key nonce text).1, text) := by
  have hlen := length_apply hc key nonce text
  have hks := le_length_keyStream hc key nonce (text.length + 32)
  have hcancel : Bytes.xor (apply c key nonce text).2
      ((keyStream c key nonce (text.length + 32)).drop 32) = text := by
    refine Bytes.xor_xor_cancel ?_
    rw [List.length_drop]
    omega
  generalize hb : (apply c key nonce text).2 = b at hlen hcancel ⊢
  simp only [apply, hlen, hcancel]

/-- A box opens to a text just if it is the box that is made of that text. -/
theorem decrypt?_eq_some_iff {c : StreamCipher} (hc : Blockwise c) {key nonce box plain : Bytes} :
    decrypt? c key nonce box = some plain ↔ box = encrypt c key nonce plain := by
  unfold decrypt?
  constructor
  · intro h
    split at h
    · cases h
    · next tag text hsplit =>
      dsimp only at h
      split at h
      · next htag =>
        cases h
        obtain ⟨hbox, -⟩ := Bytes.append_of_split? hsplit
        simp only [encrypt, apply_apply hc]
        rw [hbox, htag]
      · cases h
  · rintro rfl
    have hsplit : Bytes.split? 16 (encrypt c key nonce plain) =
        some (Poly1305.tag (apply c key nonce plain).1 (apply c key nonce plain).2,
          (apply c key nonce plain).2) := by
      have h :=
        Bytes.split?_append (Poly1305.tag (apply c key nonce plain).1 (apply c key nonce plain).2)
        (apply c key nonce plain).2
      rwa [Poly1305.length_tag] at h
    simp only [hsplit, apply_apply hc, ↓reduceIte]

end StubResolver.SecretBox
