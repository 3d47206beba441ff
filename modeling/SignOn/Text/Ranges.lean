/-!
# Sets of code points as ranges, and runs of letters

Tables of code points: sets as ranges, and mappings between letter cases as runs of code points
that are moved by the same distance.
-/

namespace SignOn.Text

/-- A set of code points: first and last of each of its ranges. -/
abbrev Ranges := List (Nat × Nat)

/-- Whether a code point lies in one of the ranges. -/
def Ranges.has (ranges : Ranges) (n : Nat) : Bool :=
  ranges.any fun (first, last) => first ≤ n && n ≤ last

/-- Whether a character lies in one of the ranges. -/
def Ranges.contains (ranges : Ranges) (c : Char) : Bool :=
  ranges.has c.toNat

/-- Code points at equal distances that go to code points at the same distances. -/
structure CaseRun where
  first : Nat
  last : Nat
  step : Nat
  /-- The code point that `first` goes to. -/
  target : Nat

namespace CaseRun

/-- Whether a code point is in a run. -/
def has (r : CaseRun) (n : Nat) : Bool :=
  r.first ≤ n && n ≤ r.last && (n - r.first) % r.step == 0

/-- The code points of a run, each with the one that it goes to. -/
def pairs (r : CaseRun) : List (Nat × Nat) :=
  (List.range ((r.last - r.first) / r.step + 1)).map fun i =>
    (r.first + i * r.step, r.target + i * r.step)

end CaseRun

end SignOn.Text
