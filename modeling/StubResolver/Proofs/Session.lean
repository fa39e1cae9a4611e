import StubResolver.DnsCrypt.Session
import StubResolver.Proofs.Certificate
import StubResolver.Proofs.Curve.Ladder
import StubResolver.Proofs.Padding
import StubResolver.Proofs.SecretBox
import StubResolver.Proofs.Utf8

set_option autoImplicit false

namespace StubResolver.DnsCrypt

namespace SharedKey

theorem blockwise_cipher (k : SharedKey) : SecretBox.Blockwise k.cipher := by
  unfold cipher
  split
  · exact SecretBox.blockwise_chaCha
  · exact SecretBox.blockwise_salsa

theorem decrypt?_eq_some_iff {k : SharedKey} {nonce box plain : Bytes} :
    k.decrypt? nonce box = some plain ↔ box = k.encrypt nonce plain :=
  SecretBox.decrypt?_eq_some_iff k.blockwise_cipher

theorem decrypt?_encrypt (k : SharedKey) (nonce plain : Bytes) :
    k.decrypt? nonce (k.encrypt nonce plain) = some plain :=
  decrypt?_eq_some_iff.2 rfl

theorem length_encrypt (k : SharedKey) (nonce plain : Bytes) :
    (k.encrypt nonce plain).length = 16 + plain.length :=
  SecretBox.length_encrypt k.blockwise_cipher k.key nonce plain

/-- The key does not depend on the side that computes it. -/
theorem agree_comm (construction : Construction) (secret secret' : Octets 32) :
    agree construction (Certificate.keyOf secret) secret' =
      agree construction (Certificate.keyOf secret') secret := by
  unfold agree Certificate.keyOf
  dsimp only
  rw [Curve25519.agree_comm]

theorem agree_of_ne_undefined {construction : Construction} (h : construction ≠ .undefined)
    (key secret : Octets 32) : ∃ shared, agree construction key secret = .ok shared := by
  cases construction with
  | undefined => exact absurd rfl h
  | xSalsa20Poly1305 => exact ⟨_, rfl⟩
  | xChaCha20Poly1305 => exact ⟨_, rfl⟩

end SharedKey

namespace Certificate

structure Operable (c : Certificate) : Prop where
  construction : c.construction ≠ .undefined
  resolverKey : c.resolverKey = keyOf c.resolverSecret

end Certificate

variable {σ : Type}

/-- The limit on packets is one on queries, of whole blocks less the marker. -/
theorem exceeds_maxPacketSize_iff (query : Bytes) :
    queryHeaderSize + (Padding.pad query).length + tagSize > maxPacketSize ↔
      65407 < query.length := by
  rw [Padding.pad, Padding.length_padTo]
  simp only [Padding.paddedSize, Padding.blockSize, Padding.minQuerySize, queryHeaderSize, tagSize,
    maxPacketSize]
  omega

theorem encryptQuery_of_length (random : RandomSource σ) (c : Certificate) (keys : ClientKeys)
    {query : Bytes} (hc : c.construction ≠ .undefined) (hmin : minMessageSize ≤ query.length)
    (hmax : query.length ≤ 65407) (s : σ) :
    ∃ packet session t, encryptQuery random c keys query s = (.ok (packet, session), t) := by
  obtain ⟨shared, hshared⟩ := SharedKey.agree_of_ne_undefined hc c.resolverKey keys.secret
  have hlen : ¬ queryHeaderSize + (Padding.pad query).length + tagSize > maxPacketSize := by
    rw [exceeds_maxPacketSize_iff]
    exact Nat.not_lt.2 hmax
  rw [encryptQuery, if_neg (Nat.not_lt.2 hmin), if_neg hlen, hshared]
  exact ⟨_, _, _, rfl⟩

structure Encrypts (c : Certificate) (keys : ClientKeys) (query packet : Bytes)
    (session : Session) :
    Prop where
  agreed : SharedKey.agree c.construction c.resolverKey keys.secret = .ok session.shared
  layout : packet = c.clientMagic.bytes ++ (keys.key.bytes ++ (session.clientNonce.bytes ++
    session.shared.encrypt (queryNonce session.clientNonce) (Padding.pad query)))
  fits : packet.length ≤ maxPacketSize

theorem encrypts_and_draws {random : RandomSource σ} {c : Certificate} {keys : ClientKeys}
    {query packet : Bytes} {session : Session} {s : σ}
    (h : (encryptQuery random c keys query s).1 = .ok (packet, session)) :
    Encrypts c keys query packet session ∧ session.clientNonce = (random 12 s).1 ∧
      (encryptQuery random c keys query s).2 = (random 12 s).2 := by
  unfold encryptQuery at h ⊢
  dsimp only at h ⊢
  split at h
  · cases h
  · next hmin =>
    split at h
    · cases h
    · next hfits =>
      cases hagree : SharedKey.agree c.construction c.resolverKey keys.secret with
      | error e =>
        rw [hagree] at h
        cases h
      | ok shared =>
        rw [hagree] at h
        cases h
        rw [if_neg hmin, if_neg hfits]
        refine ⟨⟨hagree, by simp, ?_⟩, rfl, rfl⟩
        simp only [List.length_append, Octets.length_bytes, SharedKey.length_encrypt]
        simp only [queryHeaderSize, tagSize, maxPacketSize] at hfits ⊢
        omega

theorem encrypts_of_encryptQuery {random : RandomSource σ} {c : Certificate} {keys : ClientKeys}
    {query packet : Bytes} {session : Session} {s : σ}
    (h : (encryptQuery random c keys query s).1 = .ok (packet, session)) :
    Encrypts c keys query packet session :=
  (encrypts_and_draws h).1

theorem Encrypts.length {c : Certificate} {keys : ClientKeys} {query packet : Bytes}
    {session : Session} (h : Encrypts c keys query packet session) :
    packet.length = 68 + (Padding.pad query).length := by
  rw [h.layout]
  simp only [List.length_append, Octets.length_bytes, SharedKey.length_encrypt]
  omega

theorem Encrypts.not_short {c : Certificate} {keys : ClientKeys} {query packet : Bytes}
    {session : Session} (h : Encrypts c keys query packet session) :
    ¬ packet.length < queryHeaderSize + tagSize + minMessageSize := by
  rw [h.length, Padding.pad, Padding.length_padTo]
  have hpos := Padding.paddedSize_pos Padding.minQuerySize query.length
  simp only [queryHeaderSize, tagSize, minMessageSize]
  omega

/-- The operator reads the query, and gets the session of the client. -/
theorem decryptQuery_of_encrypts {k : Certificate} (hk : k.Operable) {secret : Octets 32}
    {query packet : Bytes} {session : Session}
    (h : Encrypts k.withoutSecret (.ofSecret secret) query packet session) :
    decryptQuery k packet = .ok (query, session) := by
  have hmagic : k.clientMagic.bytes.length = 8 := k.clientMagic.length_bytes
  have hkey : (ClientKeys.ofSecret secret).key.bytes.length = 32 := Octets.length_bytes _
  have hnonce : session.clientNonce.bytes.length = 12 := session.clientNonce.length_bytes
  have hlayout : packet = k.clientMagic.bytes ++ ((ClientKeys.ofSecret secret).key.bytes ++
      (session.clientNonce.bytes ++
        session.shared.encrypt (queryNonce session.clientNonce) (Padding.pad query))) := h.layout
  have hpacketMagic : packet.take 8 = k.clientMagic.bytes := by
    rw [hlayout, List.take_left' hmagic]
  have hpacketKey : ∀ h, Octets.slice packet 8 32 h = (ClientKeys.ofSecret secret).key := by
    refine fun _ => Octets.ext (?_ : (packet.drop 8).take 32 = _)
    rw [hlayout, List.drop_left' hmagic, List.take_left' hkey]
  have hpacketNonce : ∀ h, Octets.slice packet 40 12 h = session.clientNonce := by
    refine fun _ => Octets.ext (?_ : (packet.drop 40).take 12 = _)
    rw [hlayout, ← List.append_assoc, List.drop_left' (by rw [List.length_append, hmagic, hkey]),
      List.take_left' hnonce]
  have hpacketBox : packet.drop queryHeaderSize =
      session.shared.encrypt (queryNonce session.clientNonce) (Padding.pad query) := by
    rw [hlayout, ← List.append_assoc, ← List.append_assoc, List.drop_left']
    simp only [List.length_append, hmagic, hkey, hnonce, queryHeaderSize]
  have hagreed : SharedKey.agree k.construction (ClientKeys.ofSecret secret).key k.resolverSecret =
      .ok session.shared := by
    have hagreed := h.agreed
    simp only [Certificate.withoutSecret, hk.resolverKey] at hagreed
    rw [← hagreed]
    exact SharedKey.agree_comm k.construction secret k.resolverSecret
  rw [decryptQuery, dif_neg h.not_short, if_neg (not_not.2 hpacketMagic)]
  simp only [hpacketKey, hpacketNonce, hpacketBox, hagreed, bind, Except.bind,
    SharedKey.decrypt?_encrypt]
  rw [Padding.pad, Padding.unpad_padTo]
  rfl

theorem length_resolverMagic : resolverMagic.length = 8 := by
  have h : "r6fnvWj8" = String.ofList ['r', '6', 'f', 'n', 'v', 'W', 'j', '8'] := rfl
  rw [resolverMagic, h, Bytes.ofString_of_ascii (by simp)]
  rfl

theorem length_encryptResponse (random : RandomSource σ) (session : Session)
    (response : Bytes) (s : σ) :
    (session.encryptResponse random response s).1.length =
      48 + Padding.paddedSize 0 response.length := by
  simp only [Session.encryptResponse, List.length_append, length_resolverMagic, Octets.length_bytes,
    SharedKey.length_encrypt, Padding.length_padTo]
  omega

def Session.Carries (session : Session) (half : Octets 12) (box packet : Bytes) : Prop :=
  65 ≤ packet.length ∧ packet = resolverMagic ++ (session.clientNonce.bytes ++ (half.bytes ++ box))

def Session.nonce (session : Session) (half : Octets 12) : Bytes :=
  session.clientNonce.bytes ++ half.bytes

theorem Session.Carries.decryptResponse {session : Session} {half : Octets 12} {box packet : Bytes}
    (h : session.Carries half box packet) :
    session.decryptResponse packet =
      (session.shared.decrypt? (session.nonce half) box).elim (.error .invalidResponse)
        Padding.unpad := by
  obtain ⟨hsize, hpacket⟩ := h
  have hlong : ¬ packet.length < responseHeaderSize + tagSize + minMessageSize := Nat.not_lt.2 hsize
  have hclient : session.clientNonce.bytes.length = 12 := session.clientNonce.length_bytes
  have hlength : (session.nonce half).length = 24 := by
    rw [nonce, List.length_append, hclient, half.length_bytes]
  have hlayout : packet = resolverMagic ++ (session.nonce half ++ box) := by
    rw [hpacket, nonce, List.append_assoc]
  have hmagic : packet.take 8 = resolverMagic := by
    rw [hlayout, List.take_left' length_resolverMagic]
  have hbehind : packet.drop 8 = session.nonce half ++ box := by
    rw [hlayout, List.drop_left' length_resolverMagic]
  have hnonce : (packet.drop 8).take 24 = session.nonce half := Bytes.take_field hbehind hlength
  have hbox : packet.drop responseHeaderSize = box := Bytes.drop_field hbehind hlength
  have hown : (session.nonce half).take 12 = session.clientNonce.bytes := List.take_left' hclient
  rw [Session.decryptResponse, if_neg hlong, if_neg (not_not.2 hmagic), hnonce, hbox]
  dsimp only
  rw [if_neg (not_not.2 hown)]
  cases session.shared.decrypt? (session.nonce half) box <;> rfl

theorem decryptResponse_encryptResponse (random : RandomSource σ) (session : Session)
    (response : Bytes) (s : σ) :
    session.decryptResponse (session.encryptResponse random response s).1 = .ok response := by
  have hcarries : session.Carries (random 12 s).1
      (session.shared.encrypt (session.nonce (random 12 s).1) (Padding.padTo 0 response))
      (session.encryptResponse random response s).1 := by
    constructor
    · rw [length_encryptResponse]
      have hpos := Padding.paddedSize_pos 0 response.length
      omega
    · simp [Session.encryptResponse, Session.nonce]
  rw [hcarries.decryptResponse, SharedKey.decrypt?_encrypt]
  exact Padding.unpad_padTo 0 response

/-- The secret key plays no part in encryption. -/
theorem Encrypts.withoutSecret {c : Certificate} {keys : ClientKeys} {query packet : Bytes}
    {session : Session} (h : Encrypts c keys query packet session) :
    Encrypts c.withoutSecret keys query packet session :=
  ⟨h.agreed, h.layout, h.fits⟩

/-- A query that is accepted goes through, any response comes back, and the
packet has the documented form. -/
theorem exchange_round_trip {τ : Type} {random : RandomSource σ} {c : Certificate} (hc : c.Operable)
    (secret : Octets 32) {query packet : Bytes} {session : Session} {s s' : σ}
    (h : encryptQuery random c (.ofSecret secret) query s = (.ok (packet, session), s')) :
    decryptQuery c packet = .ok (query, session) ∧
      (∀ (random' : RandomSource τ) (response : Bytes) (t : τ),
        session.decryptResponse (session.encryptResponse random' response t).1 = .ok response) ∧
      (∃ box, packet = c.clientMagic.bytes ++ (Certificate.keyOf secret).bytes ++
        (random 12 s).1.bytes ++ box ∧
        session.shared.decrypt? (queryNonce (random 12 s).1) box = some (Padding.pad query)) ∧
      packet.length = 68 + Padding.paddedSize Padding.minQuerySize query.length := by
  obtain ⟨hencrypts, hnonce, -⟩ := encrypts_and_draws (congrArg Prod.fst h)
  refine ⟨decryptQuery_of_encrypts hc hencrypts.withoutSecret,
    fun random' response t => decryptResponse_encryptResponse random' session response t, ?_, ?_⟩
  · rw [← hnonce]
    refine ⟨session.shared.encrypt (queryNonce session.clientNonce) (Padding.pad query), ?_,
      SharedKey.decrypt?_encrypt _ _ _⟩
    rw [hencrypts.layout]
    simp [ClientKeys.ofSecret]
  · rw [hencrypts.length, Padding.pad, Padding.length_padTo]

/-- A query that ends in what looks like padding. -/
theorem exchange_round_trip_padded :
    let s : Entropy := ⟨fun i => UInt8.ofNat i, 0⟩
    let c := (Certificate.generate Entropy.draw 1 .xSalsa20Poly1305 0 10 s).1
    let query : Bytes := Bytes.zeros 254 ++ [0x80, 0]
    ∃ packet session t, encryptQuery Entropy.draw c (.ofSecret (.zero 32)) query s =
      (.ok (packet, session), t) ∧
      c.Operable ∧ decryptQuery c packet = .ok (query, session) ∧
      session.decryptResponse (session.encryptResponse Entropy.draw [] t).1 = .ok [] ∧
        packet.length = 388 := by
  intro s c query
  have hc : c.Operable := ⟨by simp [c, Certificate.generate], rfl⟩
  have hsize : query.length = 256 := by simp [query]
  have hmin : minMessageSize ≤ query.length := by
    rw [hsize]
    decide
  obtain ⟨packet, session, t, h⟩ :=
    encryptQuery_of_length Entropy.draw c (.ofSecret (.zero 32)) hc.construction hmin (by omega) s
  obtain ⟨hquery, hresponse, -, hlength⟩ := exchange_round_trip (τ := Entropy) hc (.zero 32) h
  rw [hsize] at hlength
  exact ⟨packet, session, t, h, hc, hquery, hresponse Entropy.draw [] t, hlength⟩

end StubResolver.DnsCrypt
