import StubResolver.Bytes

set_option autoImplicit false

namespace StubResolver

structure Octets (n : Nat) where
  bytes : Bytes
  length_bytes : bytes.length = n
  deriving DecidableEq, Repr

namespace Octets

def ofBytes? (n : Nat) (b : Bytes) : Option (Octets n) :=
  if h : b.length = n then some ⟨b, h⟩ else none

def zero (n : Nat) : Octets n := ⟨Bytes.zeros n, Bytes.length_zeros n⟩

def slice (b : Bytes) (start n : Nat) (h : start + n ≤ b.length) : Octets n :=
  ⟨(b.drop start).take n, by simp; omega⟩

theorem ofBytes?_bytes {n : Nat} (x : Octets n) : ofBytes? n x.bytes = some x :=
  dif_pos x.length_bytes

theorem bytes_of_ofBytes? {n : Nat} {b : Bytes} {x : Octets n}
    (h : ofBytes? n b = some x) : x.bytes = b := by
  unfold ofBytes? at h
  split at h <;> cases h
  rfl

theorem ext {n : Nat} {a b : Octets n} (h : a.bytes = b.bytes) : a = b := by
  cases a; cases b; cases h; rfl

end Octets

abbrev RandomSource (σ : Type) := (n : Nat) → σ → Octets n × σ

structure Entropy where
  byteAt : Nat → UInt8
  drawn : Nat

def Entropy.draw : RandomSource Entropy := fun n e =>
  (⟨(List.range n).map fun i => e.byteAt (e.drawn + i), by simp⟩, { e with drawn := e.drawn + n })

end StubResolver
