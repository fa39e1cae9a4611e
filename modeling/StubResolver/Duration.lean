set_option autoImplicit false

namespace StubResolver

structure Duration where
  nanos : Nat
  deriving DecidableEq, Repr

namespace Duration

def zero : Duration := ⟨0⟩

def ofMillis (n : Nat) : Duration := ⟨n * 1000000⟩

def ofSeconds (n : Nat) : Duration := ⟨n * 1000000000⟩

/-- The longest span: a 64-bit count of seconds and all nanoseconds short of one more. -/
def longest : Duration := ⟨0x10000000000000000 * 1000000000 - 1⟩

def millis (d : Duration) : Nat := d.nanos / 1000000

def wholeMillis (d : Duration) : String := s!"{d.millis}ms"

/-- `n / unit` in decimal without trailing zeros, where `unit` has `places` zeros. -/
def decimal (n unit places : Nat) : String :=
  let fraction := (Nat.toDigits 10 (unit + n % unit)).drop 1
  let kept := ((fraction.take places).reverse.dropWhile (· = '0')).reverse
  if kept.isEmpty then toString (n / unit) else s!"{n / unit}." ++ String.ofList kept

/-- The text in the biggest unit of which there is at least one. -/
def text (d : Duration) : String :=
  if 1000000000 ≤ d.nanos then decimal d.nanos 1000000000 9 ++ "s"
  else if 1000000 ≤ d.nanos then decimal d.nanos 1000000 6 ++ "ms"
  else if 1000 ≤ d.nanos then decimal d.nanos 1000 3 ++ "µs"
  else s!"{d.nanos}ns"

end Duration

end StubResolver
