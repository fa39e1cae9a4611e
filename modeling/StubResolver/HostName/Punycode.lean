import StubResolver.Text.Split

/-!
Punycode: text written with ASCII characters only. The ASCII characters come first, in their order,
and a hyphen after them if there are any. Then each other character follows, from the lowest code
point to the highest, as the number of steps from the one before: a step leads to the next place of
the text or, after the last place, to the first place and the next code point. Numbers are written
with 36 digits, the least significant first, and weights that depend on the numbers so far.
-/

set_option autoImplicit false

namespace StubResolver.HostName.Punycode

def base : Nat := 36

def bound : Nat := 0x100000000

def initialBias : Nat := 72

def initialPoint : Nat := 0x80

def digitOf (n : Nat) : Char :=
  if n < 26 then Char.ofNat ('a'.toNat + n) else Char.ofNat ('0'.toNat + (n - 26))

def digit? (c : Char) : Option Nat :=
  if 'a' ≤ c ∧ c ≤ 'z' then some (c.toNat - 'a'.toNat)
  else if '0' ≤ c ∧ c ≤ '9' then some (c.toNat - '0'.toNat + 26)
  else none

/-- A digit below the threshold ends a number; `k` is 36 for its first digit,
72 for the second, and so on. -/
def threshold (bias k : Nat) : Nat := min (max (k - bias) 1) 26

theorem threshold_pos (bias k : Nat) : 0 < threshold bias k := by
  simp only [threshold]
  omega

/-- Divides by 35 until the number is below 456, counting 36 for each division. -/
def damp (delta k : Nat) : Nat × Nat :=
  if _h : 455 < delta then damp (delta / 35) (k + base) else (delta, k)
termination_by delta
decreasing_by omega

/-- The bias after a number, from the number and the length of the text it leads to. -/
def adapt (delta length : Nat) (first : Bool) : Nat :=
  let delta := if first then delta / 700 else delta / 2
  let (delta, k) := damp (delta + delta / length) 0
  k + base * delta / (delta + 38)

def writeNumber (bias k n : Nat) : List Char :=
  let t := threshold bias k
  if n < t then [digitOf n]
  else digitOf (t + (n - t) % (base - t)) :: writeNumber bias (k + base) ((n - t) / (base - t))
termination_by n
decreasing_by
  have h := threshold_pos bias k
  have := Nat.div_le_self (n - threshold bias k) (base - threshold bias k)
  omega

/-- Reads a number that is added to `n`; its next digit has the given weight. -/
def readNumber (bias : Nat) : Nat → Nat → Nat → List Char → Option (Nat × List Char)
  | _, _, _, [] => none
  | k, weight, n, c :: cs => do
    let d ← digit? c
    let n := n + d * weight
    if bound ≤ n then none
    else if d < threshold bias k then some (n, cs)
    else
      let weight := weight * (base - threshold bias k)
      if bound ≤ weight then none else readNumber bias (k + base) weight n cs

theorem length_of_readNumber {bias k weight n m : Nat} {cs rest : List Char}
    (h : readNumber bias k weight n cs = some (m, rest)) : rest.length < cs.length := by
  induction cs generalizing k weight n with
  | nil => simp [readNumber] at h
  | cons c cs ih =>
    simp only [readNumber, Option.bind_eq_bind, Option.bind_eq_some_iff] at h
    obtain ⟨d, -, h⟩ := h
    split at h
    · simp at h
    · split at h
      · simp only [Option.some.injEq, Prod.mk.injEq] at h
        simp [h.2]
      · split at h
        · simp at h
        · exact Nat.lt_succ_of_lt (ih h)

/-- Inserts one character after the other. `place` is where the next one would go without a step. -/
def insertAll (bias point place : Nat) (text cs : List Char) : Option (List Char) :=
  match cs with
  | [] => some text
  | c :: r =>
    match _h : readNumber bias base 1 place (c :: r) with
    | none => none
    | some (n, rest) =>
      let length := text.length + 1
      let point := point + n / length
      if point.isValidChar then
        insertAll (adapt (n - place) length (place = 0)) point (n % length + 1)
          (text.insertIdx (n % length) (Char.ofNat point)) rest
      else none
termination_by cs.length
decreasing_by exact length_of_readNumber _h

/-- The ASCII characters and the numbers, which the last hyphen separates if
something stands before it. -/
def sections (cs : List Char) : List Char × List Char :=
  let numbers := (cs.reverse.takeWhile (· != '-')).reverse
  let ascii := cs.take (cs.length - numbers.length - 1)
  if ascii.isEmpty then ([], cs) else (ascii, numbers)

def decode? (cs : List Char) : Option (List Char) :=
  let (ascii, numbers) := sections cs
  insertAll initialBias initialPoint 0 ascii numbers

structure Progress where
  steps : Nat
  written : Nat
  bias : Nat
  first : Bool
  deriving DecidableEq, Repr

/-- Walks through the text once and writes a number at each occurrence of the code point. -/
def writePoint (point : Nat) : Progress → List Char → Progress × List Char
  | p, [] => (p, [])
  | p, c :: cs =>
    if c.toNat < point then writePoint point { p with steps := p.steps + 1 } cs
    else if c.toNat = point then
      let bias := adapt p.steps (p.written + 1) p.first
      let (q, out) := writePoint point ⟨0, p.written + 1, bias, false⟩ cs
      (q, writeNumber p.bias base p.steps ++ out)
    else writePoint point p cs

/-- Writes the characters of each code point in turn; `point` is the
first that is not yet written. -/
def writePoints (text : List Char) : Nat → Progress → List Nat → List Char
  | _, _, [] => []
  | point, p, next :: points =>
    let (q, out) :=
      writePoint next { p with steps := p.steps + (next - point) * (p.written + 1) } text
    out ++ writePoints text (next + 1) { q with steps := q.steps + 1 } points

def points (text : List Char) : List Nat :=
  ((text.map Char.toNat).filter (initialPoint ≤ ·)).mergeSort.eraseDups

def encode (text : List Char) : List Char :=
  let ascii := text.filter fun c => c.toNat < initialPoint
  (if ascii.isEmpty then [] else ascii ++ ['-']) ++
    writePoints text initialPoint ⟨0, ascii.length, initialBias, true⟩ (points text)

end StubResolver.HostName.Punycode
