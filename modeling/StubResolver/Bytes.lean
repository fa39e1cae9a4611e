set_option autoImplicit false

namespace StubResolver

abbrev Bytes := List UInt8

namespace Bytes

def ofNatBE : Nat → Nat → Bytes
  | 0, _ => []
  | w + 1, n => ofNatBE w (n / 256) ++ [UInt8.ofNat n]

def ofNatLE : Nat → Nat → Bytes
  | 0, _ => []
  | w + 1, n => UInt8.ofNat n :: ofNatLE w (n / 256)

def toNatBE (b : Bytes) : Nat := b.foldl (fun n x => 256 * n + x.toNat) 0

def toNatLE : Bytes → Nat
  | [] => 0
  | x :: b => x.toNat + 256 * toNatLE b

def ofUInt16 (n : UInt16) : Bytes := ofNatBE 2 n.toNat

def ofUInt32 (n : UInt32) : Bytes := ofNatBE 4 n.toNat

def toUInt16 (b : Bytes) : UInt16 := UInt16.ofNat (toNatBE b)

def toUInt32 (b : Bytes) : UInt32 := UInt32.ofNat (toNatBE b)

def split? (n : Nat) (b : Bytes) : Option (Bytes × Bytes) :=
  let front := b.take n
  if front.length = n then some (front, b.drop n) else none

/-- Cuts pieces of `n` bytes off, the last of which may be shorter; the first
argument bounds their number. -/
def chunksOf (n : Nat) : Nat → Bytes → List Bytes
  | 0, _ => []
  | _, [] => []
  | count + 1, b => b.take n :: chunksOf n count (b.drop n)

def chunks (n : Nat) (b : Bytes) : List Bytes := chunksOf n b.length b

def zeros (n : Nat) : Bytes := List.replicate n 0

def xor (a b : Bytes) : Bytes := List.zipWith (· ^^^ ·) a b

def ofString (s : String) : Bytes := s.toUTF8.toList

def toString? (b : Bytes) : Option String := String.fromUTF8? ⟨b.toArray⟩

def toLatin1 (b : Bytes) : String := String.ofList (b.map fun x => Char.ofNat x.toNat)

@[simp] theorem length_ofNatBE (w n : Nat) : (ofNatBE w n).length = w := by
  induction w generalizing n with
  | zero => rfl
  | succ w ih => simp [ofNatBE, ih]

@[simp] theorem length_ofNatLE (w n : Nat) : (ofNatLE w n).length = w := by
  induction w generalizing n with
  | zero => rfl
  | succ w ih => simp [ofNatLE, ih]

@[simp] theorem length_zeros (n : Nat) : (zeros n).length = n := by simp [zeros]

theorem split?_eq (n : Nat) (b : Bytes) :
    split? n b = if n ≤ b.length then some (b.take n, b.drop n) else none := by
  simp only [split?, List.length_take]
  by_cases h : n ≤ b.length
  · simp [h]
  · rw [if_neg h, if_neg]
    omega

theorem split?_append (a b : Bytes) : split? a.length (a ++ b) = some (a, b) := by
  simp [split?]

theorem append_of_split? {n : Nat} {b x y : Bytes} (h : split? n b = some (x, y)) :
    b = x ++ y ∧ x.length = n := by
  simp only [split?] at h
  split at h
  · next hn =>
    simp only [Option.some.injEq, Prod.mk.injEq] at h
    obtain ⟨rfl, rfl⟩ := h
    exact ⟨(List.take_append_drop n b).symm, hn⟩
  · simp at h

end Bytes

end StubResolver
