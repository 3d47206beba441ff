import SignOn.Text.Split

/-!
# Punycode

A label with characters beyond ASCII, written in ASCII: its ASCII characters come first, a hyphen
ends them, and numbers behind it say which characters are missing and where, from the least code
point to the greatest. A number tells how many pairs of a code point and a place to pass over. Its
digits come least significant first; the first digit below the threshold of its position is the
last one, and the thresholds follow the size of the numbers before (`bias`).
-/

namespace SignOn.Http.Domain.Punycode

/-- The value of a digit: letters of either case, and then the digits from 0 to 9. -/
def digit? (c : Char) : Option Nat :=
  if 'a' ≤ c ∧ c ≤ 'z' then some (c.toNat - 'a'.toNat)
  else if 'A' ≤ c ∧ c ≤ 'Z' then some (c.toNat - 'A'.toNat)
  else if '0' ≤ c ∧ c ≤ '9' then some (c.toNat - '0'.toNat + 26)
  else none

/-- The threshold of the digit at a position, which is counted in steps of 36. -/
def threshold (bias position : Nat) : Nat :=
  Nat.max 1 (Nat.min 26 (position - bias))

/-- The greatest number that is read, and the greatest weight of a digit. -/
def maxNumber : Nat := 4294967295

/-- Reads a number from the digit at a position on, where a digit counts `weight` times; answers
what the number adds up to with `sum`, and the digits behind it. -/
def number? (bias position weight sum : Nat) : List Nat → Option (Nat × List Nat)
  | [] => none
  | d :: rest =>
    let sum := sum + d * weight
    let t := threshold bias position
    if maxNumber < sum then none
    else if d < t then some (sum, rest)
    else if maxNumber < weight * (36 - t) then none
    else number? bias (position + 36) (weight * (36 - t)) sum rest

/-- Reading a number uses up digits. -/
theorem number?_length {bias position weight sum n : Nat} {ds rest : List Nat}
    (h : number? bias position weight sum ds = some (n, rest)) : rest.length < ds.length := by
  induction ds generalizing position weight sum with
  | nil => simp [number?] at h
  | cons d ds ih =>
    simp only [number?] at h
    split at h
    · simp at h
    · split at h
      · simp only [Option.some.injEq, Prod.mk.injEq] at h
        simp [← h.2]
      · split at h
        · simp at h
        · have := ih h
          simp only [List.length_cons]
          omega

/-- The bias for a number that is `delta` beyond the sum of those before it, less the part of it
that `steps` of 36 positions stand for. -/
def biasFrom (steps delta : Nat) : Nat :=
  if 455 < delta then biasFrom (steps + 36) (delta / 35) else steps + 36 * delta / (delta + 38)
termination_by delta

/-- The bias behind a number that took `delta`, with so many characters now. The first number counts
for less, as it has the code points of a whole script to pass over. -/
def nextBias (isFirst : Bool) (delta count : Nat) : Nat :=
  let delta := if isFirst then delta / 700 else delta / 2
  biasFrom 0 (delta + delta / count)

/-- Puts in the characters that numbers tell of, from a code point `n` and a place `i` on. -/
def insert? (isFirst : Bool) (bias n i : Nat) (cs : List Char) (ds : List Nat) :
    Option (List Char) :=
  if ds.isEmpty then some cs
  else
    match h : number? bias 36 1 i ds with
    | none => none
    | some (sum, rest) =>
      let count := cs.length + 1
      let n := n + sum / count
      let place := sum % count
      if n.isValidChar then
        insert? false (nextBias isFirst (sum - i) count) n (place + 1)
          (cs.insertIdx place (Char.ofNat n)) rest
      else none
termination_by ds.length
decreasing_by exact number?_length (by assumption)

/-- The characters of a label, given what stands behind its `xn--`. -/
def decode? (cs : List Char) : Option (List Char) := do
  let (ascii, digits) := match Text.cutLast? ['-'] cs with
    | some (first :: ascii, digits) => (first :: ascii, digits)
    | _ => ([], cs)
  let ds ← digits.mapM digit?
  insert? true 72 128 0 ascii ds

end SignOn.Http.Domain.Punycode
