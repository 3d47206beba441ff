import SignOn.Duration
import SignOn.Error

/-!
# Rotation schedules

A rotation falls due after a first delay and then once in every period. The clock of schedules
starts at zero and counts nanoseconds, but it is looked at only once in every millisecond.
-/

namespace SignOn

/-- When rotations fall due. -/
structure Schedule where
  /-- When the next rotation falls due. -/
  due : Nat
  /-- The time between two rotations. -/
  period : Nat
  positive : 0 < period

namespace Schedule

/-- A schedule that begins after a delay. -/
def start (now : Nat) (delay period : Duration) : Result Schedule :=
  if h : 0 < period.nanos then .ok ⟨now + delay.nanos, period.nanos, h⟩
  else misconfigured .nonPositiveInterval

/-- The schedule after one rotation. -/
def advance (s : Schedule) : Schedule :=
  { s with due := s.due + s.period }

/-- How many rotations fall due up to a moment, that moment included. -/
def dueCount (s : Schedule) (now : Nat) : Nat :=
  if s.due ≤ now then (now - s.due) / s.period + 1 else 0

/-- The millisecond at which the clock shows that the next rotation is due. -/
def shownDue (s : Schedule) : Nat :=
  (s.due + 999999) / 1000000

/-- Whether a rotation shows as due before one of another schedule. -/
def isBefore (s t : Schedule) : Bool :=
  s.shownDue < t.shownDue

end Schedule

end SignOn
