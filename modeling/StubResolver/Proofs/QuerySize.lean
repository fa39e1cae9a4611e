import StubResolver.Proofs.Frame
import StubResolver.Proofs.Session

set_option autoImplicit false

namespace StubResolver.DnsCrypt

variable {σ : Type} {random : RandomSource σ} {c k : Certificate} {keys : ClientKeys}
  {query packet : Bytes}
  {session : Session} {e : Error} {s : σ}

/-- Why a query is not encrypted. The construction is looked at last. -/
inductive Certificate.Refuses (c : Certificate) (query : Bytes) : Error → Prop where
  | short : query.length < 17 → c.Refuses query .invalidQuery
  | long : 65407 < query.length → c.Refuses query (.queryTooLarge query.length)
  | construction : 17 ≤ query.length → query.length ≤ 65407 → c.construction = .undefined →
    c.Refuses query (.unsupportedConstruction 0)

theorem Certificate.Refuses.encryptQuery (h : c.Refuses query e) (random : RandomSource σ)
    (keys : ClientKeys) (s : σ) : encryptQuery random c keys query s = (.error e, s) := by
  unfold DnsCrypt.encryptQuery
  dsimp only
  cases h with
  | short hshort => rw [if_pos (show query.length < minMessageSize from hshort)]
  | long hlong =>
    have hmin : ¬ query.length < minMessageSize := by
      rw [minMessageSize]
      omega
    rw [if_neg hmin, if_pos (exceeds_maxPacketSize_iff query |>.2 hlong)]
  | construction hmin hmax hundefined =>
    rw [if_neg (show ¬ query.length < minMessageSize from Nat.not_lt.2 hmin),
      if_neg (mt (exceeds_maxPacketSize_iff query).1 (Nat.not_lt.2 hmax)), hundefined]
    rfl

def Certificate.Accepts (c : Certificate) (query : Bytes) : Prop :=
  17 ≤ query.length ∧ query.length ≤ 65407 ∧ c.construction ≠ .undefined

theorem Certificate.accepts_or_refuses (c : Certificate) (query : Bytes) :
    c.Accepts query ∨ ∃ e, c.Refuses query e := by
  by_cases hmin : 17 ≤ query.length
  · by_cases hmax : query.length ≤ 65407
    · by_cases hc : c.construction = .undefined
      · exact .inr ⟨_, .construction hmin hmax hc⟩
      · exact .inl ⟨hmin, hmax, hc⟩
    · exact .inr ⟨_, .long (Nat.not_le.1 hmax)⟩
  · exact .inr ⟨_, .short (Nat.not_le.1 hmin)⟩

theorem encryptQuery_ok_iff (random : RandomSource σ) (c : Certificate) (keys : ClientKeys)
    (query : Bytes) (s : σ) :
    (∃ packet session, (encryptQuery random c keys query s).1 = .ok (packet, session)) ↔
      c.Accepts query := by
  constructor
  · rintro ⟨packet, session, h⟩
    rcases c.accepts_or_refuses query with haccepts | ⟨e, hrefuses⟩
    · exact haccepts
    · rw [hrefuses.encryptQuery] at h
      cases h
  · rintro ⟨hmin, hmax, hc⟩
    obtain ⟨packet, session, t, h⟩ := encryptQuery_of_length random c keys hc hmin hmax s
    exact ⟨packet, session, congrArg Prod.fst h⟩

theorem encryptQuery_error_iff :
    (encryptQuery random c keys query s).1 = .error e ↔ c.Refuses query e := by
  constructor
  · intro h
    rcases c.accepts_or_refuses query with haccepts | ⟨e', hrefuses⟩
    · obtain ⟨packet, session, hok⟩ := (encryptQuery_ok_iff random c keys query s).2 haccepts
      cases h.symm.trans hok
    · rw [hrefuses.encryptQuery] at h
      cases h
      exact hrefuses
  · intro h
    rw [h.encryptQuery]

theorem Encrypts.isLeast (h : Encrypts c keys query packet session) :
    ∃ n, IsLeast {n | 64 ∣ n ∧ max 256 (query.length + 1) ≤ n} n ∧ packet.length = 68 + n := by
  refine ⟨_, Padding.isLeast_paddedSize Padding.minQuerySize query.length, ?_⟩
  rw [h.length, Padding.pad, Padding.length_padTo]

/-- A resolver of another certificate sees that it is not the one that is meant. -/
theorem Encrypts.decryptQuery_of_ne (h : Encrypts c keys query packet session)
    (hk : k.clientMagic ≠ c.clientMagic) : decryptQuery k packet = .error .invalidClientMagic := by
  have hmagic : packet.take 8 = c.clientMagic.bytes := by
    rw [h.layout, List.take_left' c.clientMagic.length_bytes]
  have hother : packet.take 8 ≠ k.clientMagic.bytes := by
    rw [hmagic]
    exact fun hsame => hk (Octets.ext hsame.symm)
  rw [decryptQuery, dif_neg h.not_short, if_pos hother]

/-- The length and the construction decide; a packet is of the least size, and every size that
comes out can be sent and read. -/
theorem encryptQuery_decided (random : RandomSource σ) (c : Certificate) (keys : ClientKeys)
    (query : Bytes) (s : σ) :
    let r := encryptQuery random c keys query s
    ((∃ packet session, r.1 = .ok (packet, session)) ↔
      17 ≤ query.length ∧ query.length ≤ 65407 ∧ c.construction ≠ .undefined) ∧
    (∀ e, r.1 = .error e ↔ c.Refuses query e) ∧
    (∀ e, r.1 = .error e → r.2 = s) ∧
    ∀ packet session, r.1 = .ok (packet, session) →
      (∃ n, IsLeast {n | 64 ∣ n ∧ max 256 (query.length + 1) ≤ n} n ∧ packet.length = 68 + n) ∧
      packet.length ≤ 65535 ∧ (∃ frame, Frame.write packet = .ok frame) ∧
      queryHeaderSize + tagSize + minMessageSize ≤ packet.length ∧
      ∀ k : Certificate, k.clientMagic ≠ c.clientMagic →
        decryptQuery k packet = .error .invalidClientMagic := by
  intro r
  refine ⟨encryptQuery_ok_iff random c keys query s,
    fun e => encryptQuery_error_iff, fun e he => ?_, fun packet session h => ?_⟩
  · exact congrArg Prod.snd ((encryptQuery_error_iff.1 he).encryptQuery random keys s)
  · have hencrypts := encrypts_of_encryptQuery h
    have hfits : packet.length ≤ 65535 := hencrypts.fits
    exact ⟨hencrypts.isLeast, hfits, ⟨_, Frame.write_of_length_lt (Nat.lt_succ_of_le hfits)⟩,
      Nat.not_lt.1 hencrypts.not_short, fun k hk => hencrypts.decryptQuery_of_ne hk⟩

/-- The longest query of all, one that is a byte longer, and one that a certificate without
a construction leaves over. -/
theorem encryptQuery_decided_at_limit :
    let c : Certificate := ⟨1, .xSalsa20Poly1305, .zero 64, .zero 32, .zero 32, .zero 8, 0, 10⟩
    let keys : ClientKeys := .ofSecret (.zero 32)
    let s : Entropy := ⟨fun i => UInt8.ofNat i, 0⟩
    (∃ packet session, (encryptQuery Entropy.draw c keys (Bytes.zeros 65407) s).1 =
        .ok (packet, session) ∧
        packet.length = 65476 ∧ ∃ frame, Frame.write packet = .ok frame) ∧
      encryptQuery Entropy.draw c keys (Bytes.zeros 65408) s = (.error (.queryTooLarge 65408), s) ∧
      encryptQuery Entropy.draw { c with construction := .undefined } keys (Bytes.zeros 17) s =
        (.error (.unsupportedConstruction 0), s) := by
  intro c keys s
  have hlength : ∀ n, (Bytes.zeros n).length = n := Bytes.length_zeros
  -- Of the queries nothing but the length matters.
  have hlongest : ∀ query : Bytes, query.length = 65407 → ∃ packet session,
      (encryptQuery Entropy.draw c keys query s).1 = .ok (packet, session) ∧ packet.length = 65476 ∧
        ∃ frame, Frame.write packet = .ok frame := by
    intro query hquery
    obtain ⟨hok, -, -, hpacket⟩ := encryptQuery_decided Entropy.draw c keys query s
    rw [hquery] at hok hpacket
    obtain ⟨packet, session, h⟩ := hok.2 ⟨by omega, by omega, by simp [c]⟩
    obtain ⟨⟨n, ⟨⟨⟨blocks, rfl⟩, hmax⟩, hleast⟩, hsize⟩, -, hframe, -⟩ := hpacket packet session h
    have hle : 64 * blocks ≤ 65408 := hleast ⟨⟨1022, rfl⟩, by omega⟩
    exact ⟨packet, session, h, by omega, hframe⟩
  have hlonger : ∀ query : Bytes, query.length = 65408 →
      encryptQuery Entropy.draw c keys query s = (.error (.queryTooLarge 65408), s) := by
    intro query hquery
    obtain ⟨-, herror, hsame, -⟩ := encryptQuery_decided Entropy.draw c keys query s
    have hrefuses : c.Refuses query (.queryTooLarge query.length) := .long (by omega)
    rw [hquery] at hrefuses
    have he := (herror _).2 hrefuses
    exact Prod.ext he (hsame _ he)
  refine ⟨hlongest _ (hlength _), hlonger _ (hlength _), ?_⟩
  obtain ⟨-, herror, hsame, -⟩ :=
    encryptQuery_decided Entropy.draw { c with construction := .undefined } keys (Bytes.zeros 17) s
  have he := (herror _).2 (.construction (by rw [hlength]) (by rw [hlength]; omega) rfl)
  exact Prod.ext he (hsame _ he)

end StubResolver.DnsCrypt
