import SignOn.Text.Blank
import SignOn.Text.FoldTable
import SignOn.Text.WordTable

/-!
# Sets of characters

The sets that a pattern can name, as ranges of code points in order, of which no two touch: a set
has one such form, so equal sets are equal lists. Unions, complements, and the sets that result
when letter case does not count are made range by range.
-/

namespace SignOn.Pattern

/-- A set of characters: first and last code point of its ranges, in order. -/
structure CharSet where
  ranges : Text.Ranges
deriving DecidableEq, Repr

namespace CharSet

/-- The greatest code point. -/
def top : Nat := 0x10FFFF

/-- The set without characters. -/
def nothing : CharSet := ⟨[]⟩

/-- The set of all characters. -/
def everything : CharSet := ⟨[(0, top)]⟩

/-- The characters from one to another. -/
def range (first last : Char) : CharSet := ⟨[(first.toNat, last.toNat)]⟩

/-- A single character. -/
def one (c : Char) : CharSet := range c c

/-- The digits of all scripts. -/
def digit : CharSet := ⟨Text.digitRanges⟩

/-- White space. -/
def blank : CharSet := ⟨Text.blankRanges⟩

/-- The word characters of all scripts. -/
def word : CharSet := ⟨Text.wordRanges⟩

/-- Whether a character is in a set. -/
def contains (s : CharSet) (c : Char) : Bool :=
  s.ranges.contains c

/-- The code point of which a set consists, if there is just one. -/
def single? (s : CharSet) : Option Nat :=
  match s.ranges with
  | [(first, last)] => if first = last then some first else none
  | _ => none

/-- Whether all characters of a set are ASCII. -/
def isAscii (s : CharSet) : Bool :=
  s.ranges.all fun (_, last) => last < 128

/-! ## Unions and complements -/

/-- Ranges with one more range, joined with those that it touches. -/
def insertRange (first last : Nat) : Text.Ranges → Text.Ranges
  | [] => [(first, last)]
  | (a, b) :: rest =>
    if last + 1 < a then (first, last) :: (a, b) :: rest
    else if b + 1 < first then (a, b) :: insertRange first last rest
    else insertRange (Nat.min first a) (Nat.max last b) rest

/-- The characters of one of two sets. -/
def union (s t : CharSet) : CharSet :=
  ⟨t.ranges.foldl (fun ranges (first, last) => insertRange first last ranges) s.ranges⟩

/-- What lies between ranges, and behind them, from a code point on. -/
def gapsFrom (start : Nat) : Text.Ranges → Text.Ranges
  | [] => if start ≤ top then [(start, top)] else []
  | (first, last) :: rest =>
    if start < first then (start, first - 1) :: gapsFrom (last + 1) rest
    else gapsFrom (last + 1) rest

/-- All other characters. -/
def complement (s : CharSet) : CharSet :=
  ⟨gapsFrom 0 s.ranges⟩

/-- The characters of both of two sets. -/
def inter (s t : CharSet) : CharSet :=
  (s.complement.union t.complement).complement

/-- The characters of the first set that are not in the second one. -/
def minus (s t : CharSet) : CharSet :=
  s.inter t.complement

/-- The union of several sets. -/
def unionOf (sets : List CharSet) : CharSet :=
  sets.foldl union nothing

/-! ## Letter case -/

/-- The set with more code points. -/
def insertAll (s : CharSet) (points : List Nat) : CharSet :=
  ⟨points.foldl (fun ranges n => insertRange n n ranges) s.ranges⟩

/-- The characters that differ from those of a set at most in letter case: first the least variant
of each character joins, and then all characters with a least variant in the set. -/
def anyCase (s : CharSet) : CharSet :=
  let least := Text.variantPairs.filter fun (n, least) =>
    s.ranges.has n && !s.ranges.has least
  let s := s.insertAll (least.map Prod.snd)
  let variants := Text.variantPairs.filter fun (n, least) =>
    s.ranges.has least && !s.ranges.has n
  s.insertAll (variants.map Prod.fst)

/-- The characters that differ from those of a set at most in the case of ASCII letters. -/
def anyAsciiCase (s : CharSet) : CharSet :=
  let capitals := (List.range 26).map (0x41 + ·)
  let small := (capitals.filter s.ranges.has).map (· + 32)
  let s' := s.insertAll small
  s'.insertAll (capitals.filter fun n => s.ranges.has (n + 32))

/-! ## Classes with names -/

/-- The ASCII classes that can be named within brackets. -/
def named? : String → Option CharSet
  | "alnum" => some (unionOf [range '0' '9', range 'A' 'Z', range 'a' 'z'])
  | "alpha" => some (union (range 'A' 'Z') (range 'a' 'z'))
  | "ascii" => some (range '\x00' '\x7f')
  | "blank" => some (union (one '\t') (one ' '))
  | "cntrl" => some (union (range '\x00' '\x1f') (one '\x7f'))
  | "digit" => some (range '0' '9')
  | "graph" => some (range '!' '~')
  | "lower" => some (range 'a' 'z')
  | "print" => some (range ' ' '~')
  | "punct" => some (unionOf [range '!' '/', range ':' '@', range '[' '\x60', range '\x7b' '~'])
  | "space" => some (unionOf [range '\t' '\r', one ' '])
  | "upper" => some (range 'A' 'Z')
  | "word" => some (unionOf [range '0' '9', range 'A' 'Z', range 'a' 'z', one '_'])
  | "xdigit" => some (unionOf [range '0' '9', range 'A' 'F', range 'a' 'f'])
  | _ => none

end CharSet

end SignOn.Pattern
