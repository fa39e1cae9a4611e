import StubResolver.Proofs.Session

set_option autoImplicit false

namespace StubResolver

namespace Bytes

def range? (b : Bytes) (start stop : Nat) : Option Bytes :=
  if start ≤ stop ∧ stop ≤ b.length then some ((b.drop start).take (stop - start)) else none

theorem range?_of_le {b : Bytes} {start stop : Nat} (hstart : start ≤ stop)
    (hstop : stop ≤ b.length) :
    range? b start stop = some ((b.drop start).take (stop - start)) :=
  if_pos ⟨hstart, hstop⟩

end Bytes

namespace DnsCrypt.Session

variable {s : Session} {packet : Bytes}

def Answers (s : Session) (packet message : Bytes) : Prop :=
  ∃ half box n, s.Carries half box packet ∧
    s.shared.decrypt? (s.nonce half) box = some (message ++ 0x80 :: Bytes.zeros n)

/-- Why a packet is refused. Every check is made of those packets only that
have passed the ones before it. -/
inductive Refuses (s : Session) (packet : Bytes) : Error → Prop where
  | size : packet.length < 65 → Refuses s packet .invalidResponse
  | magic : 65 ≤ packet.length → packet.take 8 ≠ resolverMagic →
    Refuses s packet .invalidResolverMagic
  | nonce : 65 ≤ packet.length → packet.take 8 = resolverMagic →
    (packet.drop 8).take 12 ≠ s.clientNonce.bytes →
    Refuses s packet .invalidResponse
  | box {half : Octets 12} {box : Bytes} : s.Carries half box packet →
    s.shared.decrypt? (s.nonce half) box = none →
    Refuses s packet .invalidResponse
  | padding {half : Octets 12} {box padded : Bytes} : s.Carries half box packet →
    s.shared.decrypt? (s.nonce half) box = some padded →
      (∀ message n, padded ≠ message ++ 0x80 :: Bytes.zeros n) →
    Refuses s packet .invalidPadding

theorem decryptResponse_of_size (h : packet.length < 65) :
    s.decryptResponse packet = .error .invalidResponse :=
  if_pos h

theorem decryptResponse_of_magic (hsize : 65 ≤ packet.length) (h : packet.take 8 ≠ resolverMagic) :
    s.decryptResponse packet = .error .invalidResolverMagic := by
  have hlong : ¬ packet.length < responseHeaderSize + tagSize + minMessageSize := Nat.not_lt.2 hsize
  rw [decryptResponse, if_neg hlong, if_pos h]

theorem decryptResponse_of_nonce (hsize : 65 ≤ packet.length)
    (hmagic : packet.take 8 = resolverMagic) (h : (packet.drop 8).take 12 ≠ s.clientNonce.bytes) :
    s.decryptResponse packet = .error .invalidResponse := by
  have hlong : ¬ packet.length < responseHeaderSize + tagSize + minMessageSize := Nat.not_lt.2 hsize
  have hforeign : ((packet.drop 8).take 24).take 12 ≠ s.clientNonce.bytes := by rwa [List.take_take]
  rw [decryptResponse, if_neg hlong, if_neg (not_not.2 hmagic)]
  exact if_pos hforeign

theorem exists_carries (hsize : 65 ≤ packet.length) (hmagic : packet.take 8 = resolverMagic)
    (hnonce : (packet.drop 8).take 12 = s.clientNonce.bytes) :
    ∃ half box, s.Carries half box packet := by
  have hfits : 20 + 12 ≤ packet.length := by omega
  refine ⟨.slice packet 20 12 hfits, packet.drop 32, hsize, ?_⟩
  have hhalf : (Octets.slice packet 20 12 hfits).bytes ++ packet.drop 32 = packet.drop 20 := by
    rw [Octets.slice, ← List.drop_drop (i := 12) (j := 20), List.take_append_drop]
  rw [hhalf, ← hnonce, ← hmagic, ← List.drop_drop (i := 12) (j := 8), List.take_append_drop,
    List.take_append_drop]

theorem carries_cases (s : Session) (packet : Bytes) :
    packet.length < 65 ∨ (65 ≤ packet.length ∧ packet.take 8 ≠ resolverMagic) ∨
      (65 ≤ packet.length ∧ packet.take 8 = resolverMagic ∧
        (packet.drop 8).take 12 ≠ s.clientNonce.bytes) ∨
      ∃ half box, s.Carries half box packet := by
  by_cases hsize : 65 ≤ packet.length
  · by_cases hmagic : packet.take 8 = resolverMagic
    · by_cases hnonce : (packet.drop 8).take 12 = s.clientNonce.bytes
      · exact .inr (.inr (.inr (exists_carries hsize hmagic hnonce)))
      · exact .inr (.inr (.inl ⟨hsize, hmagic, hnonce⟩))
    · exact .inr (.inl ⟨hsize, hmagic⟩)
  · exact .inl (Nat.lt_of_not_le hsize)

theorem decryptResponse_of_refuses {e : Error} (h : s.Refuses packet e) :
    s.decryptResponse packet = .error e := by
  cases h with
  | size hsize => exact decryptResponse_of_size hsize
  | magic hsize hmagic => exact decryptResponse_of_magic hsize hmagic
  | nonce hsize hmagic hnonce => exact decryptResponse_of_nonce hsize hmagic hnonce
  | box hcarries hbox => rw [hcarries.decryptResponse, hbox, Option.elim_none]
  | padding hcarries hbox hpadding =>
    rw [hcarries.decryptResponse, hbox]
    exact Padding.unpad_eq_error_iff.2 ⟨rfl, hpadding⟩

theorem decryptResponse_of_answers {message : Bytes} (h : s.Answers packet message) :
    s.decryptResponse packet = .ok message := by
  obtain ⟨half, box, n, hcarries, hbox⟩ := h
  rw [hcarries.decryptResponse, hbox]
  exact Padding.unpad_eq_ok_iff.2 ⟨n, rfl⟩

theorem answers_or_refuses (s : Session) (packet : Bytes) :
    (∃ message, s.Answers packet message) ∨ ∃ e, s.Refuses packet e := by
  obtain hsize | ⟨hsize, hmagic⟩ | ⟨hsize, hmagic, hnonce⟩ | ⟨half, box, hcarries⟩ :=
    carries_cases s packet
  · exact .inr ⟨_, .size hsize⟩
  · exact .inr ⟨_, .magic hsize hmagic⟩
  · exact .inr ⟨_, .nonce hsize hmagic hnonce⟩
  · cases hbox : s.shared.decrypt? (s.nonce half) box with
    | none => exact .inr ⟨_, .box hcarries hbox⟩
    | some padded =>
      by_cases hpadding : ∃ message n, padded = message ++ 0x80 :: Bytes.zeros n
      · obtain ⟨message, n, rfl⟩ := hpadding
        exact .inl ⟨message, half, box, n, hcarries, hbox⟩
      · exact .inr ⟨_, .padding hcarries hbox fun message n h => hpadding ⟨message, n, h⟩⟩

theorem decryptResponse_eq_ok_iff {message : Bytes} :
    s.decryptResponse packet = .ok message ↔ s.Answers packet message := by
  refine ⟨fun h => ?_, decryptResponse_of_answers⟩
  obtain ⟨message', hanswers⟩ | ⟨e, hrefuses⟩ := answers_or_refuses s packet
  · rw [decryptResponse_of_answers hanswers] at h
    cases h
    exact hanswers
  · rw [decryptResponse_of_refuses hrefuses] at h
    cases h

theorem decryptResponse_eq_error_iff {e : Error} :
    s.decryptResponse packet = .error e ↔ s.Refuses packet e := by
  refine ⟨fun h => ?_, decryptResponse_of_refuses⟩
  obtain ⟨message, hanswers⟩ | ⟨e', hrefuses⟩ := answers_or_refuses s packet
  · rw [decryptResponse_of_answers hanswers] at h
    cases h
  · rw [decryptResponse_of_refuses hrefuses] at h
    cases h
    exact hrefuses

theorem clientNonce_of_carries {s s' : Session} {half half' : Octets 12} {box box' : Bytes}
    (h : s.Carries half box packet) (h' : s'.Carries half' box' packet) :
    s.clientNonce = s'.clientNonce := by
  have hlayout := h.2.symm.trans h'.2
  rw [List.append_cancel_left_eq] at hlayout
  refine Octets.ext (List.append_inj hlayout ?_).1
  rw [s.clientNonce.length_bytes, s'.clientNonce.length_bytes]

/-- Decryption that comes to nothing where it would read outside of the packet. -/
def decryptWithin (s : Session) (packet : Bytes) : Option (Except Error Bytes) :=
  if packet.length < responseHeaderSize + tagSize + minMessageSize then
    some (.error .invalidResponse)
  else do
    if (← packet.range? 0 8) ≠ resolverMagic then return .error .invalidResolverMagic
    let nonce ← packet.range? 8 responseHeaderSize
    if (← nonce.range? 0 12) ≠ s.clientNonce.bytes then return .error .invalidResponse
    match s.shared.decrypt? nonce (← packet.range? responseHeaderSize packet.length) with
    | none => return .error .invalidResponse
    | some padded => return Padding.unpad padded

theorem decryptWithin_eq (s : Session) (packet : Bytes) :
    s.decryptWithin packet = some (s.decryptResponse packet) := by
  unfold decryptWithin decryptResponse
  split
  · rfl
  · next hsize =>
    have hlong : 65 ≤ packet.length := Nat.le_of_not_lt hsize
    have hmagic : packet.range? 0 8 = some (packet.take 8) :=
      Bytes.range?_of_le (by decide) (by omega)
    have hnonce : packet.range? 8 responseHeaderSize = some ((packet.drop 8).take 24) :=
      Bytes.range?_of_le (by decide) (Nat.le_trans (by decide) hlong)
    have hown : Bytes.range? ((packet.drop 8).take 24) 0 12 =
        some (((packet.drop 8).take 24).take 12) := by
      refine Bytes.range?_of_le (by decide) ?_
      rw [List.length_take, List.length_drop]
      omega
    have hbox : packet.range? responseHeaderSize packet.length =
        some (packet.drop responseHeaderSize) := by
      rw [Bytes.range?_of_le (Nat.le_trans (by decide) hlong) (Nat.le_refl _),
        List.take_of_length_le]
      rw [List.length_drop]
    simp only [hmagic, hnonce, hown, hbox, Option.bind_eq_bind, Option.bind_some]
    split
    · rfl
    · split
      · rfl
      · cases s.shared.decrypt? ((packet.drop 8).take 24) (packet.drop responseHeaderSize) <;> rfl

/--
A session accepts its own responses and refuses everything else, with the error of the first check
that fails; what opens is what was encrypted. No response is that of two sessions with different
nonces, and a packet that ends in the header or in the tag is refused without a look past its end.
-/
theorem accepts_own_responses (s : Session) (packet : Bytes) :
    (∀ message, s.decryptResponse packet = .ok message ↔ s.Answers packet message) ∧
    (∀ e, s.decryptResponse packet = .error e ↔ s.Refuses packet e) ∧
    (∀ nonce box plain, s.shared.decrypt? nonce box = some plain ↔
      box = s.shared.encrypt nonce plain) ∧
    (∀ (s' : Session) (message message' : Bytes), s'.clientNonce ≠ s.clientNonce →
      s.decryptResponse packet = .ok message → s'.decryptResponse packet ≠ .ok message') ∧
    s.decryptWithin packet = some (s.decryptResponse packet) ∧
    ∀ n < 48, s.decryptWithin (packet.take n) = some (.error .invalidResponse) := by
  refine ⟨fun _ => decryptResponse_eq_ok_iff, fun _ => decryptResponse_eq_error_iff,
    fun _ _ _ => SharedKey.decrypt?_eq_some_iff, ?_, decryptWithin_eq s packet, ?_⟩
  · intro s' message message' hne h h'
    obtain ⟨_, _, _, hcarries, -⟩ := decryptResponse_eq_ok_iff.1 h
    obtain ⟨_, _, _, hcarries', -⟩ := decryptResponse_eq_ok_iff.1 h'
    exact hne (clientNonce_of_carries hcarries' hcarries)
  · intro n hn
    have hlength : (packet.take n).length < 65 := by
      rw [List.length_take]
      omega
    rw [decryptWithin_eq, decryptResponse_of_size hlength]

/-- A message that ends in what looks like padding, and the session of another nonce. -/
theorem accepts_own_responses_padded :
    let s : Session := ⟨.zero 12, ⟨true, Bytes.zeros 32⟩⟩
    let s' : Session := ⟨⟨List.replicate 12 1, rfl⟩, ⟨true, Bytes.zeros 32⟩⟩
    let packet := (s.encryptResponse Entropy.draw [7, 0x80, 0] ⟨fun _ => 5, 0⟩).1
    s'.clientNonce ≠ s.clientNonce ∧ s.decryptResponse packet = .ok [7, 0x80, 0] ∧
      s.Answers packet [7, 0x80, 0] ∧
      s'.decryptResponse packet ≠ .ok [7, 0x80, 0] ∧
        s.decryptWithin (packet.take 47) = some (.error .invalidResponse) := by
  intro s s' packet
  have hne : s'.clientNonce ≠ s.clientNonce := by decide
  have hread : s.decryptResponse packet = .ok [7, 0x80, 0] :=
    decryptResponse_encryptResponse _ s _ _
  obtain ⟨hanswers, -, -, hforeign, -, hcut⟩ := accepts_own_responses s packet
  exact ⟨hne, hread, (hanswers _).1 hread, hforeign s' _ _ hne hread, hcut 47 (by decide)⟩

end DnsCrypt.Session

end StubResolver
