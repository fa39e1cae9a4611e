import StubResolver.Text.Numeral

set_option autoImplicit false

namespace StubResolver.Timestamp

/-- A clock value before 1970 counts as its start, one past the last
representable second as that second. -/
def ofClock (seconds : Int) : UInt32 := UInt32.ofNat (min seconds.toNat 0xffffffff)

/-- Year, month and day of the day `n` days after 1970-01-01. Counting starts at 0000-03-01, so that
a leap day is the last day of its year and eras of 400 years have equal length. -/
def civil (n : Nat) : Nat × Nat × Nat :=
  let z := n + 719468
  let day := z % 146097
  let year := (day - day / 1460 + day / 36524 - day / 146096) / 365
  let dayOfYear := day - (365 * year + year / 4 - year / 100)
  let m := (5 * dayOfYear + 2) / 153
  let month := if m < 10 then m + 3 else m - 9
  (year + z / 146097 * 400 + (if month ≤ 2 then 1 else 0), month, dayOfYear - (153 * m + 2) / 5 + 1)

def two (n : Nat) : String := Text.padLeft 2 '0' (toString n)

def text (t : UInt32) : String :=
  let s := t.toNat % 86400
  let (y, m, d) := civil (t.toNat / 86400)
  Text.padLeft 4 '0' (toString y) ++ s!"-{two m}-{two d}T{two (s / 3600)}:{two (s / 60 % 60)}:" ++
    s!"{two (s % 60)}+00:00"

end StubResolver.Timestamp
