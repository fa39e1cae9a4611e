import StubResolver.Crypto.ChaCha20
import StubResolver.Crypto.Poly1305
import StubResolver.Crypto.Salsa20

/-!
Authenticated encryption with a 24-byte nonce. Its first sixteen bytes turn the key into a subkey,
its last eight number the key stream. The first half block of the key stream is the key of the
authenticator, the rest encrypts; the tag of the encrypted text goes in front of it.
-/

set_option autoImplicit false

namespace StubResolver

structure StreamCipher where
  block : (key nonce : Bytes) → Nat → Bytes
  derive : (key input : Bytes) → Bytes

def StreamCipher.salsa : StreamCipher := ⟨Salsa20.block, Salsa20.derive⟩

def StreamCipher.chaCha : StreamCipher := ⟨ChaCha20.block, ChaCha20.derive⟩

namespace SecretBox

def keyStream (c : StreamCipher) (key nonce : Bytes) (n : Nat) : Bytes :=
  let subkey := c.derive key (nonce.take 16)
  (List.range (n / 64 + 1)).flatMap (c.block subkey (nonce.drop 16))

/-- The authenticator's key, and the text combined with the key stream after it. -/
def apply (c : StreamCipher) (key nonce text : Bytes) : Bytes × Bytes :=
  let ks := keyStream c key nonce (text.length + 32)
  (ks.take 32, Bytes.xor text (ks.drop 32))

def encrypt (c : StreamCipher) (key nonce plain : Bytes) : Bytes :=
  let (macKey, text) := apply c key nonce plain
  Poly1305.tag macKey text ++ text

def decrypt? (c : StreamCipher) (key nonce box : Bytes) : Option Bytes :=
  match Bytes.split? 16 box with
  | none => none
  | some (tag, text) =>
    let (macKey, plain) := apply c key nonce text
    if tag = Poly1305.tag macKey text then some plain else none

end SecretBox

end StubResolver
