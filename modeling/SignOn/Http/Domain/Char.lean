import SignOn.Http.Domain.CharTable
import SignOn.Http.Domain.DirectionTable
import SignOn.Http.Domain.MarkTable

/-!
# Kinds of characters in domains

Which way a character is written, how it joins to its neighbours, and whether and in which order it
attaches to the character in front.
-/

namespace SignOn.Http.Domain

/-! ## Direction -/

/-- Which way a character is written. -/
inductive Direction where
  | left
  | right
  | arabicNumber
  | europeanNumber
  | neutral
  /-- As the character in front, to which it attaches. -/
  | attached
deriving DecidableEq, Repr

/-- Whether a character is a mark. -/
def isMark (c : Char) : Bool :=
  markRanges.contains c

/-- Which way a character is written; most are written from left to right. -/
def direction (c : Char) : Direction :=
  if rightRanges.contains c then .right
  else if arabicNumberRanges.contains c then .arabicNumber
  else if europeanNumberRanges.contains c then .europeanNumber
  else if neutralRanges.contains c then .neutral
  else if isMark c && !spacingRanges.contains c then .attached
  else .left

/-! ## Joining -/

/-- Whether a character joins to the one behind it. -/
def joinsBehind (c : Char) : Bool :=
  bothRanges.contains c || behindRanges.contains c

/-- Whether a character joins to the one in front of it. -/
def joinsFront (c : Char) : Bool :=
  bothRanges.contains c || frontRanges.contains c

/-- Whether the neighbours of a character join over it. -/
def isTransparent (c : Char) : Bool :=
  direction c == .attached || transparentRanges.contains c

/-! ## Classes of marks -/

/-- The class by which a mark is put in order; other characters are of class zero. -/
def markClass (c : Char) : Nat :=
  match classRanges.find? fun (first, last, _) => first ≤ c.toNat && c.toNat ≤ last with
  | some (_, _, n) => n
  | none => 0

/-- The class of marks that take the vowel off a letter. -/
def vowelKiller : Nat := 9

end SignOn.Http.Domain
