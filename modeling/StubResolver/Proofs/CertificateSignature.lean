import StubResolver.Proofs.CertificateForm
import StubResolver.Proofs.Curve.Ed25519

set_option autoImplicit false

namespace StubResolver.DnsCrypt.Certificate

theorem signatureHolds_sign (c : Certificate) (seed : Octets 32) :
    (c.sign seed).signatureHolds (Ed25519.publicKey seed.bytes) = true :=
  Ed25519.verify_sign seed.bytes c.signed

def covered (b : Bytes) : Bytes := (b.drop 72).take 52

theorem length_signed (c : Certificate) : c.signed.length = 52 := by
  simp [signed, Octets.length_bytes]

theorem drop_encode {c : Certificate} {now : UInt32} {b : Bytes} (h : c.encode now = .ok b) :
    b.drop 8 = c.signature.bytes ++ c.signed := by
  obtain ⟨-, rfl⟩ := encode_layout h
  have hfront : (magic ++ (Bytes.ofUInt16 c.construction.code ++ [0, 0])).length = 8 := by
    simp [length_magic]
  have hsplit : ∀ rest, (magic ++ (Bytes.ofUInt16 c.construction.code ++ [0, 0]) ++ rest).drop 8 =
      rest :=
    fun rest => List.drop_left' hfront
  rw [← hsplit (c.signature.bytes ++ c.signed)]
  simp only [signed, List.append_assoc]

theorem covered_encode {c : Certificate} {now : UInt32} {b : Bytes} (h : c.encode now = .ok b) :
    covered b = c.signed := by
  have hdrop : b.drop 72 = c.signed := by
    rw [← List.drop_drop (i := 64) (j := 8), drop_encode h,
      List.drop_left' c.signature.length_bytes]
  rw [covered, hdrop, List.take_of_length_le (Nat.le_of_eq c.length_signed)]

theorem covered_eq (b : Bytes) : covered b = ((b.drop 8).take 116).drop 64 := by
  rw [covered, List.drop_take, List.drop_drop]

theorem signatureHolds_of_decode {b : Bytes} {c : Certificate}
    (h : decode b = .ok c) (key : Bytes) :
    c.signatureHolds key = Ed25519.verify key (covered b) ((b.drop 8).take 64) := by
  have hreads := reads_of_decode h
  have hsigned : c.signed = covered b := by
    rw [covered_eq, ← hreads.fields, List.drop_left' c.signature.length_bytes]
  rw [signatureHolds, hsigned, hreads.signature]

theorem signatureHolds_congr {b b' : Bytes} {c c' : Certificate} (h : decode b = .ok c)
    (h' : decode b' = .ok c') (hsame : (b.drop 8).take 116 = (b'.drop 8).take 116) (key : Bytes) :
    c.signatureHolds key = c'.signatureHolds key := by
  have hsignature : ∀ b : Bytes, (b.drop 8).take 64 = ((b.drop 8).take 116).take 64 := by
    intro b
    rw [List.take_take]
    rfl
  rw [signatureHolds_of_decode h, signatureHolds_of_decode h', covered_eq, covered_eq,
    hsignature b, hsignature b', hsame]

theorem ofUInt32_inj {m n : UInt32} : Bytes.ofUInt32 m = Bytes.ofUInt32 n ↔ m = n := by
  constructor
  · intro h
    rw [← Bytes.toUInt32_ofUInt32 m, h, Bytes.toUInt32_ofUInt32]
  · exact congrArg Bytes.ofUInt32

theorem signed_eq_iff {c c' : Certificate} :
    c.signed = c'.signed ↔ c.resolverKey = c'.resolverKey ∧ c.clientMagic = c'.clientMagic ∧
      c.serial = c'.serial ∧
      c.notBefore = c'.notBefore ∧ c.notAfter = c'.notAfter := by
  constructor
  · intro h
    have hword : ∀ m n : UInt32, (Bytes.ofUInt32 m).length = (Bytes.ofUInt32 n).length := by simp
    -- The fields have known lengths, so they come apart from the back to the front.
    obtain ⟨h, hafter⟩ := List.append_inj' h (hword _ _)
    obtain ⟨h, hbefore⟩ := List.append_inj' h (hword _ _)
    obtain ⟨h, hserial⟩ := List.append_inj' h (hword _ _)
    obtain ⟨hkey, hmagic⟩ := List.append_inj' h (by rw [Octets.length_bytes, Octets.length_bytes])
    exact ⟨Octets.ext hkey, Octets.ext hmagic, ofUInt32_inj.1 hserial, ofUInt32_inj.1 hbefore,
      ofUInt32_inj.1 hafter⟩
  · rintro ⟨hkey, hmagic, hserial, hbefore, hafter⟩
    rw [signed, signed, hkey, hmagic, hserial, hbefore, hafter]

/--
The provider signs, and a client checks, bytes 72 to 124 of the written form, so that what is signed
and written holds when it is read. Of the bytes that are read only those from 8 to 124 matter. What
is signed tells the fields that are signed, and no more.
-/
theorem signature_coverage :
    (∀ (c : Certificate) (now : UInt32), c.construction ≠ .undefined → c.Current now →
      ∃ b, c.encode now = .ok b ∧
        (∀ seed, (c.sign seed).signature.bytes = Ed25519.sign seed.bytes (covered b)) ∧
        (∀ key, c.signatureHolds key = Ed25519.verify key (covered b) c.signature.bytes) ∧
        ∀ seed, ∃ b' d, (c.sign seed).encode now = .ok b' ∧ covered b' = covered b ∧
          decode b' = .ok d ∧
          d.signatureHolds (Ed25519.publicKey seed.bytes) = true) ∧
    (∀ b b' c c' key, decode b = .ok c → decode b' = .ok c' →
      (b.drop 8).take 116 = (b'.drop 8).take 116 →
      c.signatureHolds key = c'.signatureHolds key) ∧
    ∀ c c' : Certificate, c.signed = c'.signed ↔
      c.resolverKey = c'.resolverKey ∧ c.clientMagic = c'.clientMagic ∧ c.serial = c'.serial ∧
        c.notBefore = c'.notBefore ∧ c.notAfter = c'.notAfter := by
  refine ⟨fun c now hconstruction hnow => ?_,
    fun _ _ _ _ key h h' hsame => signatureHolds_congr h h' hsame key, fun _ _ => signed_eq_iff⟩
  have hwritten := encode_of_current hconstruction hnow
  have hcovered := covered_encode hwritten
  refine ⟨_, hwritten, fun seed => ?_, fun key => ?_, fun seed => ?_⟩
  · rw [hcovered]
    rfl
  · rw [hcovered]
    rfl
  · have hsigned := encode_of_current (c := c.sign seed) hconstruction hnow
    have hread := decode_encode hsigned []
    rw [List.append_nil] at hread
    refine ⟨_, _, hsigned, ?_, hread, signatureHolds_sign c seed⟩
    rw [covered_encode hsigned, hcovered]
    rfl

/-- The signature of one certificate holds for another construction, with
a minor version and a tail. -/
theorem signature_coverage_reused :
    let seed : Octets 32 := .zero 32
    let key := Ed25519.publicKey seed.bytes
    let c : Certificate :=
      ⟨7, .xSalsa20Poly1305, .zero 64, .zero 32, .zero 32, ⟨List.replicate 8 5, rfl⟩, 100, 200⟩
    c.construction ≠ .undefined ∧ c.Current 150 ∧ c.signed ≠ { c with serial := 8 }.signed ∧
      ∃ b d d', (c.sign seed).encode 150 = .ok b ∧ decode b = .ok d ∧ d.signatureHolds key = true ∧
        decode (magic ++ [0, 2, 9, 9] ++ (b.drop 8 ++ [1, 2, 3])) = .ok d' ∧
          d'.signatureHolds key = true := by
  intro seed key c
  obtain ⟨hwrite, hread, hfields⟩ := signature_coverage
  have hnow : c.Current 150 := by
    unfold Current
    decide
  have hother : c.signed ≠ { c with serial := 8 }.signed := by
    intro hsame
    exact absurd ((hfields _ _).1 hsame).2.2.1 (by decide)
  obtain ⟨_, _, _, _, hsign⟩ := hwrite c 150 (by decide) hnow
  obtain ⟨b, d, hb, -, hd, hholds⟩ := hsign seed
  have hlength : (b.drop 8).length = 116 := by rw [List.length_drop, length_encode hb]
  have hfront : (magic ++ [0, 2, 9, 9]).length = 8 := by rw [magic_eq]; rfl
  have hversion : ∀ rest, version (magic ++ [0, 2, 9, 9] ++ rest) = 2 := by
    intro rest
    rw [version, magic_eq]
    rfl
  obtain ⟨d', hd'⟩ : ∃ d', decode (magic ++ [0, 2, 9, 9] ++ (b.drop 8 ++ [1, 2, 3])) = .ok d' := by
    refine exists_decode_iff.2 ⟨?_, ?_, .inr (hversion _)⟩
    · rw [List.length_append, hfront, List.length_append, hlength]
      decide
    · rw [List.append_assoc, List.take_left' length_magic]
  have hsame : (b.drop 8).take 116 =
      ((magic ++ [0, 2, 9, 9] ++ (b.drop 8 ++ [1, 2, 3])).drop 8).take 116 := by
    rw [List.drop_left' hfront, List.take_left' hlength,
      List.take_of_length_le (Nat.le_of_eq hlength)]
  refine ⟨by decide, hnow, hother, b, d, d', hb, hd, hholds, hd', ?_⟩
  rw [← hread b _ d d' key hd hd' hsame, hholds]

/-- Inside of its window, a certificate without a construction is signed but not written. -/
theorem undefined_not_written :
    let c : Certificate := ⟨1, .undefined, .zero 64, .zero 32, .zero 32, .zero 8, 100, 200⟩
    c.Current 150 ∧ (c.sign (.zero 32)).encode 150 = .error (.unsupportedConstruction 0) ∧ ¬ ∃ b,
      c.encode 150 = .ok b := by
  intro c
  have hunwritten : c.encode 150 = .error (.unsupportedConstruction 0) :=
    encode_of_undefined rfl 150
  refine ⟨by unfold Current; decide, encode_of_undefined rfl 150, fun hwritten => ?_⟩
  obtain ⟨b, hb⟩ := hwritten
  rw [hunwritten] at hb
  cases hb

end StubResolver.DnsCrypt.Certificate
