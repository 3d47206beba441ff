import SignOn.Text.Inspect

/-!
# Lengths of time

A length of time in whole nanoseconds. Deadlines are moments in epoch milliseconds, so a length is
added to a moment in whole milliseconds.
-/

namespace SignOn

/-- A length of time. -/
structure Duration where
  nanos : Nat
deriving DecidableEq, Repr

namespace Duration

/-- The length of so many seconds. -/
def ofSeconds (n : Nat) : Duration := ⟨n * 1000000000⟩

/-- The length of so many milliseconds. -/
def ofMillis (n : Nat) : Duration := ⟨n * 1000000⟩

/-- The length of so many microseconds. -/
def ofMicros (n : Nat) : Duration := ⟨n * 1000⟩

/-- The whole milliseconds of a length of time. -/
def millis (d : Duration) : Nat := d.nanos / 1000000

/-- The whole seconds of a length of time. -/
def seconds (d : Duration) : Nat := d.nanos / 1000000000

/-- The whole milliseconds as a 64-bit integer, the greatest one if there are more. -/
def boundedMillis (d : Duration) : Int64 :=
  if d.millis ≤ 9223372036854775807 then Int64.ofNat d.millis else Int64.maxValue

/-- The lowest 64 bits of the number of whole milliseconds. -/
def wrappedMillis (d : Duration) : Int64 :=
  Int64.ofNat d.millis

/-- A length of time as a developer sees it. -/
def inspect (d : Duration) : String :=
  Text.Inspect.duration d.nanos

end Duration

end SignOn
