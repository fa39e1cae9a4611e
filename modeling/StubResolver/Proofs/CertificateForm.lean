import StubResolver.Proofs.Certificate

set_option autoImplicit false

namespace StubResolver.DnsCrypt

theorem Construction.code_of_ofCode {n : UInt16} {c : Construction}
    (h : ofCode n = .ok c) : c.code = n := by
  unfold ofCode at h
  split at h
  · next hn =>
    cases h
    exact hn.symm
  · split at h
    · next hn =>
      cases h
      exact hn.symm
    · cases h

theorem Construction.exists_ofCode_iff {n : UInt16} : (∃ c, ofCode n = .ok c) ↔ n = 1 ∨ n = 2 := by
  constructor
  · intro h
    obtain ⟨c, hc⟩ := h
    have hcode := code_of_ofCode hc
    cases c with
    | undefined =>
      subst hcode
      cases hc
    | xSalsa20Poly1305 => exact .inl hcode.symm
    | xChaCha20Poly1305 => exact .inr hcode.symm
  · intro h
    cases h with
    | inl h => exact ⟨.xSalsa20Poly1305, by rw [h]; rfl⟩
    | inr h => exact ⟨.xChaCha20Poly1305, by rw [h]; rfl⟩

namespace Certificate

def Current (c : Certificate) (now : UInt32) : Prop :=
  c.notBefore < c.notAfter ∧ c.notBefore ≤ now ∧ now ≤ c.notAfter

theorem validAt_iff {c : Certificate} {now : UInt32} : c.validAt now = true ↔ c.Current now := by
  simp [validAt, Current, and_assoc]

theorem encode_of_undefined {c : Certificate} (h : c.construction = .undefined) (now : UInt32) :
    c.encode now = .error (.unsupportedConstruction 0) := by
  rw [encode, if_pos h, h]
  rfl

theorem encode_of_not_current {c : Certificate} (h : c.construction ≠ .undefined) {now : UInt32}
    (hnow : ¬ c.Current now) :
    c.encode now = .error (.invalidValidityWindow c.notBefore c.notAfter) := by
  have hvalid : c.validAt now = false := Bool.eq_false_iff.2 fun hv => hnow (validAt_iff.1 hv)
  simp [encode, h, hvalid]

theorem encode_of_current {c : Certificate} (h : c.construction ≠ .undefined) {now : UInt32}
    (hnow : c.Current now) :
    c.encode now =
      .ok (magic ++ Bytes.ofUInt16 c.construction.code ++ [0, 0] ++
        c.signature.bytes ++ c.signed) := by
  have hvalid : c.validAt now = true := validAt_iff.2 hnow
  simp [encode, h, hvalid]

theorem encode_eq_unsupported_iff {c : Certificate} {now : UInt32} {v : UInt16} :
    c.encode now = .error (.unsupportedConstruction v) ↔ c.construction = .undefined ∧ v = 0 := by
  by_cases h : c.construction = .undefined
  · simp [encode_of_undefined h, h, eq_comm]
  · by_cases hnow : c.Current now
    · simp [encode_of_current h hnow, h]
    · simp [encode_of_not_current h hnow, h]

theorem encode_eq_window_iff {c : Certificate} {now a z : UInt32} :
    c.encode now = .error (.invalidValidityWindow a z) ↔
      c.construction ≠ .undefined ∧ ¬ c.Current now ∧ a = c.notBefore ∧ z = c.notAfter := by
  by_cases h : c.construction = .undefined
  · simp [encode_of_undefined h, h]
  · by_cases hnow : c.Current now
    · simp [encode_of_current h hnow, hnow]
    · simp [encode_of_not_current h hnow, h, hnow, eq_comm]

def version (b : Bytes) : UInt16 := Bytes.toUInt16 ((b.drop 4).take 2)

/-- What is read has the fields that stand in the bytes. -/
structure Reads (b : Bytes) (c : Certificate) : Prop where
  size : 124 ≤ b.length
  magic : b.take 4 = magic
  version : Construction.ofCode (version b) = .ok c.construction
  signature : c.signature.bytes = (b.drop 8).take 64
  resolverKey : c.resolverKey.bytes = (b.drop 72).take 32
  clientMagic : c.clientMagic.bytes = (b.drop 104).take 8
  serial : c.serial = Bytes.toUInt32 ((b.drop 112).take 4)
  notBefore : c.notBefore = Bytes.toUInt32 ((b.drop 116).take 4)
  notAfter : c.notAfter = Bytes.toUInt32 ((b.drop 120).take 4)

theorem reads_of_decode {b : Bytes} {c : Certificate} (h : decode b = .ok c) : Reads b c := by
  unfold decode at h
  split at h
  · cases h
  · next hsize =>
    split at h
    · cases h
    · next hmagic =>
      cases hversion : Construction.ofCode (Bytes.toUInt16 ((b.drop 4).take 2)) with
      | error e =>
        rw [hversion] at h
        cases h
      | ok construction =>
        rw [hversion] at h
        cases h
        exact ⟨Nat.le_of_not_lt hsize, not_not.1 hmagic, hversion, rfl, rfl, rfl, rfl, rfl, rfl⟩

theorem exists_decode_iff {b : Bytes} :
    (∃ c, decode b = .ok c) ↔ 124 ≤ b.length ∧ b.take 4 = magic ∧
      (version b = 1 ∨ version b = 2) := by
  constructor
  · intro h
    obtain ⟨c, hc⟩ := h
    have hreads := reads_of_decode hc
    exact ⟨hreads.size, hreads.magic, Construction.exists_ofCode_iff.1 ⟨_, hreads.version⟩⟩
  · intro h
    obtain ⟨hsize, hmagic, hversion⟩ := h
    obtain ⟨construction, hconstruction⟩ := Construction.exists_ofCode_iff.2 hversion
    have hlong : ¬ b.length < size := Nat.not_lt.2 hsize
    rw [version] at hconstruction
    rw [decode, dif_neg hlong, if_neg (not_not.2 hmagic)]
    simp only [hconstruction]
    exact ⟨_, rfl⟩

theorem Reads.fields {b : Bytes} {c : Certificate} (h : Reads b c) :
    c.signature.bytes ++ c.signed = (b.drop 8).take 116 := by
  have hword : ∀ i, i + 4 ≤ 124 → ((b.drop i).take 4).length = 4 := by
    intro i hi
    have hsize := h.size
    rw [List.length_take, List.length_drop]
    omega
  have hserial : Bytes.ofUInt32 c.serial = (b.drop 112).take 4 := by
    rw [h.serial, Bytes.ofUInt32_toUInt32 (hword 112 (by decide))]
  have hbefore : Bytes.ofUInt32 c.notBefore = (b.drop 116).take 4 := by
    rw [h.notBefore, Bytes.ofUInt32_toUInt32 (hword 116 (by decide))]
  have hafter : Bytes.ofUInt32 c.notAfter = (b.drop 120).take 4 := by
    rw [h.notAfter, Bytes.ofUInt32_toUInt32 (hword 120 (by decide))]
  have hcut : ∀ i m n, (b.drop i).take m ++ (b.drop (i + m)).take n = (b.drop i).take (m + n) := by
    intro i m n
    rw [List.take_add, List.drop_drop]
  rw [signed, h.signature, h.resolverKey, h.clientMagic, hserial, hbefore, hafter,
    hcut 72 32 8, hcut 72 40 4, hcut 72 44 4, hcut 72 48 4, hcut 8 64 52]

theorem encode_of_decode {b : Bytes} {c : Certificate} (h : decode b = .ok c) {now : UInt32}
    (hnow : c.Current now) : c.encode now = .ok (b.take 6 ++ [0, 0] ++ (b.drop 8).take 116) := by
  have hreads := reads_of_decode h
  have hsize := hreads.size
  have hlength : ((b.drop 4).take 2).length = 2 := by
    rw [List.length_take, List.length_drop]
    omega
  have hcode : Bytes.ofUInt16 c.construction.code = (b.drop 4).take 2 := by
    rw [Construction.code_of_ofCode hreads.version, version, Bytes.ofUInt16_toUInt16 hlength]
  have hfront : magic ++ Bytes.ofUInt16 c.construction.code = b.take 6 := by
    rw [hcode, ← hreads.magic, ← List.take_add]
  rw [encode_of_current (decode_spec h).1 hnow, List.append_assoc, hreads.fields, hfront]

/-- A certificate is written in 124 bytes, inside of its window, and refused for its construction
first. Bytes are read by their length, the magic and the version alone. What is written is read back
without the secret key, and what is read is written again up to the minor version and the rest. -/
theorem written_form :
    (∀ (c : Certificate) (now : UInt32),
      (∀ v, c.encode now = .error (.unsupportedConstruction v) ↔
        c.construction = .undefined ∧ v = 0) ∧
      (∀ a z, c.encode now = .error (.invalidValidityWindow a z) ↔
        c.construction ≠ .undefined ∧ ¬ c.Current now ∧ a = c.notBefore ∧ z = c.notAfter) ∧
      (c.construction ≠ .undefined → c.Current now →
        ∃ b, c.encode now = .ok b ∧ b.length = 124 ∧ ∀ rest,
        decode (b ++ rest) = .ok c.withoutSecret)) ∧
    (∀ b : Bytes,
      ((∃ c, decode b = .ok c) ↔
        124 ≤ b.length ∧ b.take 4 = [0x44, 0x4e, 0x53, 0x43] ∧ (version b = 1 ∨ version b = 2)) ∧
      ∀ c now, decode b = .ok c → c.Current now →
        c.encode now = .ok (b.take 6 ++ [0, 0] ++ (b.drop 8).take 116)) ∧
    ∀ (c c' : Certificate) (now now' : UInt32) (b : Bytes),
      c.encode now = .ok b → c'.encode now' = .ok b → c.withoutSecret = c'.withoutSecret := by
  refine ⟨fun c now => ⟨fun v => encode_eq_unsupported_iff, fun a z => encode_eq_window_iff,
    fun h hnow => ?_⟩,
    fun b => ⟨magic_eq ▸ exists_decode_iff, fun c now h hnow => encode_of_decode h hnow⟩, ?_⟩
  · have hwritten := encode_of_current h hnow
    exact ⟨_, hwritten, length_encode hwritten, decode_encode hwritten⟩
  · intro c c' now now' b h h'
    have hread := decode_encode h []
    have hread' := decode_encode h' []
    exact Except.ok.inj (hread.symm.trans hread')

/-- A certificate is written on its first second, read with bytes behind it,
and written again on its last. -/
theorem written_form_first_to_last :
    let c : Certificate :=
      ⟨7, .xChaCha20Poly1305, .zero 64, .zero 32, ⟨List.replicate 32 9, rfl⟩,
        ⟨List.range' 1 8 |>.map UInt8.ofNat, rfl⟩, 100, 200⟩
    c.construction ≠ .undefined ∧ c.Current 100 ∧ c.withoutSecret.Current 200 ∧
      c ≠ c.withoutSecret ∧
      ∃ b, c.encode 100 = .ok b ∧ decode (b ++ [1, 2, 3]) = .ok c.withoutSecret ∧
        c.withoutSecret.encode 200 =
          .ok ((b ++ [1, 2, 3]).take 6 ++ [0, 0] ++ ((b ++ [1, 2, 3]).drop 8).take 116) := by
  intro c
  obtain ⟨hwrite, hread, -⟩ := written_form
  have hnow : c.Current 100 := by unfold Current; decide
  have hlast : c.withoutSecret.Current 200 := by unfold Current; decide
  obtain ⟨b, hb, -, hdecode⟩ := (hwrite c 100).2.2 (by decide) hnow
  exact ⟨by decide, hnow, hlast, by decide, b, hb, hdecode _, (hread _).2 _ 200 (hdecode _) hlast⟩

end Certificate

end StubResolver.DnsCrypt
