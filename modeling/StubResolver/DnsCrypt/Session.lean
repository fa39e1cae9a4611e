import StubResolver.Crypto.SecretBox
import StubResolver.DnsCrypt.Certificate
import StubResolver.DnsCrypt.Padding
import StubResolver.Text.FieldList

/-!
Encrypted exchanges. A query carries the client magic, the client's public key and the client's half
of the nonce in front of the box; a response repeats that half and adds the resolver's own. Both
boxes use the key that the client and the resolver share.
-/

set_option autoImplicit false

namespace StubResolver.DnsCrypt

structure ClientKeys where
  secret : Octets 32
  key : Octets 32
  deriving DecidableEq, Repr

namespace ClientKeys

def ofSecret (secret : Octets 32) : ClientKeys := ⟨secret, Certificate.keyOf secret⟩

def ofBytes (b : Bytes) : Except Error ClientKeys :=
  match Octets.ofBytes? 32 b with
  | some secret => .ok (ofSecret secret)
  | none => .error .key

def generate {σ : Type} (random : RandomSource σ) (s : σ) : ClientKeys × σ :=
  let (secret, s) := random 32 s
  (ofSecret secret, s)

def fields (k : ClientKeys) : String :=
  Text.fieldList "ClientKeys"
    [("public", Text.sequence (k.key.bytes.map fun b => toString b.toNat))] false

end ClientKeys

structure SharedKey where
  chaCha : Bool
  key : Bytes
  deriving DecidableEq, Repr

namespace SharedKey

def cipher (k : SharedKey) : StreamCipher := if k.chaCha then .chaCha else .salsa

def agree (construction : Construction) (key secret : Octets 32) : Except Error SharedKey :=
  let make (chaCha : Bool) (c : StreamCipher) : SharedKey :=
    ⟨chaCha, c.derive (Curve25519.agree secret.bytes key.bytes) (Bytes.zeros 16)⟩
  match construction with
  | .xSalsa20Poly1305 => .ok (make false .salsa)
  | .xChaCha20Poly1305 => .ok (make true .chaCha)
  | .undefined => .error (.unsupportedConstruction construction.code)

def encrypt (k : SharedKey) (nonce plain : Bytes) : Bytes :=
  SecretBox.encrypt k.cipher k.key nonce plain

def decrypt? (k : SharedKey) (nonce box : Bytes) : Option Bytes :=
  SecretBox.decrypt? k.cipher k.key nonce box

end SharedKey

/-- One exchange: the shared key and the client's half of the nonce. -/
structure Session where
  clientNonce : Octets 12
  shared : SharedKey
  deriving DecidableEq, Repr

def minMessageSize : Nat := 17

def maxPacketSize : Nat := 65535

def tagSize : Nat := 16

def queryHeaderSize : Nat := 52

def responseHeaderSize : Nat := 32

def resolverMagic : Bytes := Bytes.ofString "r6fnvWj8"

def queryNonce (clientNonce : Octets 12) : Bytes := clientNonce.bytes ++ Bytes.zeros 12

/-- Encrypts a query for the resolver of a certificate. Only a query
that is accepted draws a nonce. -/
def encryptQuery {σ : Type} (random : RandomSource σ) (c : Certificate) (keys : ClientKeys)
    (query : Bytes) (s : σ) : Except Error (Bytes × Session) × σ :=
  if query.length < minMessageSize then (.error .invalidQuery, s)
  else
    let padded := Padding.pad query
    if queryHeaderSize + padded.length + tagSize > maxPacketSize then
      (.error (.queryTooLarge query.length), s)
    else match SharedKey.agree c.construction c.resolverKey keys.secret with
      | .error e => (.error e, s)
      | .ok shared =>
        let (nonce, s) := random 12 s
        let box := shared.encrypt (queryNonce nonce) padded
        (.ok (c.clientMagic.bytes ++ keys.key.bytes ++ nonce.bytes ++ box, ⟨nonce, shared⟩), s)

theorem le_length_of_query {packet : Bytes}
    (h : ¬ packet.length < queryHeaderSize + tagSize + minMessageSize) : 85 ≤ packet.length :=
  Nat.le_of_not_lt h

theorem clientKey_fits {packet : Bytes}
    (h : ¬ packet.length < queryHeaderSize + tagSize + minMessageSize) : 8 + 32 ≤ packet.length :=
  Nat.le_trans (by decide) (le_length_of_query h)

theorem clientNonce_fits {packet : Bytes}
    (h : ¬ packet.length < queryHeaderSize + tagSize + minMessageSize) : 40 + 12 ≤ packet.length :=
  Nat.le_trans (by decide) (le_length_of_query h)

/-- Decrypts a query with the secret key in the resolver's own certificate. -/
def decryptQuery (c : Certificate) (packet : Bytes) : Except Error (Bytes × Session) :=
  if h : packet.length < queryHeaderSize + tagSize + minMessageSize then .error .invalidQuery
  else if packet.take 8 ≠ c.clientMagic.bytes then .error .invalidClientMagic
  else do
    let nonce : Octets 12 := .slice packet 40 12 (clientNonce_fits h)
    let shared ← SharedKey.agree c.construction (.slice packet 8 32 (clientKey_fits h))
      c.resolverSecret
    match shared.decrypt? (queryNonce nonce) (packet.drop queryHeaderSize) with
    | none => throw .invalidQuery
    | some padded => return (← Padding.unpad padded, ⟨nonce, shared⟩)

namespace Session

def decryptResponse (s : Session) (packet : Bytes) : Except Error Bytes :=
  if packet.length < responseHeaderSize + tagSize + minMessageSize then .error .invalidResponse
  else if packet.take 8 ≠ resolverMagic then .error .invalidResolverMagic
  else
    let nonce := (packet.drop 8).take 24
    if nonce.take 12 ≠ s.clientNonce.bytes then .error .invalidResponse
    else match s.shared.decrypt? nonce (packet.drop responseHeaderSize) with
      | none => .error .invalidResponse
      | some padded => Padding.unpad padded

def encryptResponse {σ : Type} (random : RandomSource σ) (session : Session)
    (response : Bytes) (s : σ) :
    Bytes × σ :=
  let (half, s) := random 12 s
  let nonce := session.clientNonce.bytes ++ half.bytes
  (resolverMagic ++ nonce ++ session.shared.encrypt nonce (Padding.padTo 0 response), s)

end Session

end StubResolver.DnsCrypt
