import StubResolver.Text.Numeral

set_option autoImplicit false

namespace StubResolver.DnsCrypt

inductive Error where
  | tooShort (size : Nat)
  | badMagic
  | unsupportedConstruction (version : UInt16)
  | invalidValidityWindow (notBefore notAfter : UInt32)
  | invalidSignature
  | invalidPadding
  | invalidStamp (reason : String)
  | queryTooLarge (size : Nat)
  | invalidQuery
  | invalidClientMagic
  | invalidResolverMagic
  | invalidResponse
  | noValidCertificate
  | key
  deriving DecidableEq, Repr

def hexLiteral (width n : Nat) : String := "0x" ++ Text.padLeft width '0' (Text.lowerHex n)

def Error.message : Error → String
  | tooShort n => s!"Certificate is too short: need 124 bytes, got {n}."
  | badMagic => "Invalid certificate magic: expected \"DNSC\"."
  | unsupportedConstruction v =>
    s!"Unsupported crypto construction (es-version): {hexLiteral 4 v.toNat}."
  | invalidValidityWindow a b =>
    s!"Certificate has an invalid validity window (not-before {a}, not-after {b})."
  | invalidSignature => "Certificate signature does not verify against the provider public key."
  | invalidPadding => "Invalid padding: no 0x80 marker found."
  | invalidStamp reason => s!"Invalid DNS stamp: {reason}."
  | queryTooLarge n => s!"DNSCrypt query is too large: {n} bytes."
  | invalidQuery => "DNSCrypt query is invalid and cannot be decrypted."
  | invalidClientMagic => "DNSCrypt query contains an invalid client magic."
  | invalidResolverMagic => "DNSCrypt response contains an invalid resolver magic."
  | invalidResponse => "DNSCrypt response is invalid and cannot be decrypted."
  | noValidCertificate => "No valid certificate was offered by the resolver."
  | key => "Could not handle Ed25519 key material."

end StubResolver.DnsCrypt
