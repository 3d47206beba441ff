import SignOn.Pattern.Words

/-!
# The weight of a pattern

How much room a pattern takes when it is spelled out as an automaton that reads the bytes of a
text, once forward and once backward. A set of characters becomes sequences of byte ranges; the
automaton that reads forward shares what sequences have in common at their ends, and the one that
reads backward what they have in common at their starts. A pattern is light if neither automaton
takes more room than `weightLimit`.
-/

namespace SignOn.Pattern

/-! ## Sets as sequences of bytes -/

/-- A sequence of bytes, given by a range for each place. -/
abbrev ByteRanges := List (Nat × Nat)

/-- The weight of a digit in front of so many digits of six bits. -/
def placeValue : Nat → Nat
  | 0 => 1
  | digits + 1 => 64 * placeValue digits

/-- The numbers from one to another as ranges of digits, of which so many have six bits and stand
behind the first one. -/
def digitRanges : Nat → Nat → Nat → List ByteRanges
  | 0, low, high => [[(low, high)]]
  | digits + 1, low, high =>
    let unit := placeValue (digits + 1)
    let a := low / unit
    let b := high / unit
    let startsWhole := low % unit == 0
    let endsWhole := high % unit == unit - 1
    if a = b then (digitRanges digits (low % unit) (high % unit)).map ((a, a) :: ·)
    else
      let front :=
        if startsWhole then []
        else (digitRanges digits (low % unit) (unit - 1)).map ((a, a) :: ·)
      let first := if startsWhole then a else a + 1
      let last := if endsWhole then b else b - 1
      let middle :=
        if first ≤ last then [(first, last) :: List.replicate (digits + 1) (0, 63)] else []
      let back :=
        if endsWhole then []
        else (digitRanges digits 0 (high % unit)).map ((b, b) :: ·)
      front ++ middle ++ back

/-- How the characters from one code point to another are written: so many bytes of six bits
behind a first byte, which is marked by a number that is added to it. -/
structure Encoding where
  first : Nat
  last : Nat
  following : Nat
  mark : Nat
deriving DecidableEq, Repr

/-- The ways to write a character; between the third and the fourth one there are no characters. -/
def encodings : List Encoding :=
  [⟨0, 0x7F, 0, 0⟩, ⟨0x80, 0x7FF, 1, 0xC0⟩, ⟨0x800, 0xD7FF, 2, 0xE0⟩, ⟨0xE000, 0xFFFF, 2, 0xE0⟩,
    ⟨0x10000, 0x10FFFF, 3, 0xF0⟩]

/-- Marks the first byte of a sequence. -/
def Encoding.marked (e : Encoding) : ByteRanges → ByteRanges
  | [] => []
  | (low, high) :: following => (low + e.mark, high + e.mark) :: following

/-- The characters of a set as sequences of bytes, in order. -/
def CharSet.byteRanges (s : CharSet) : List ByteRanges :=
  s.ranges.flatMap fun (first, last) =>
    encodings.flatMap fun e =>
      let low := Nat.max first e.first
      let high := Nat.min last e.last
      if low ≤ high then (digitRanges e.following low high).map e.marked else []

/-! ## Automata of sets -/

/-- The greatest number of bytes of a character. -/
def maxBytes : Nat := 4

/-- Sequences by their first ranges: what may follow each of them. -/
def branches (sequences : List ByteRanges) : List (List ByteRanges) :=
  (sequences.splitBy fun a b => a.head? == b.head?).map (·.map List.tail)

/-- What may still follow at the places inside sequences of so many bytes at most. -/
def inside : Nat → List ByteRanges → List (List ByteRanges)
  | 0, _ => []
  | bytes + 1, sequences =>
    if sequences == [[]] then []
    else sequences :: (branches sequences).flatMap (inside bytes)

/-- How many bytes a character has. -/
def encodedLength (n : Nat) : Nat :=
  total (fun e => if e.first ≤ n ∧ n ≤ e.last then e.following + 1 else 0) encodings

/-- Which way an automaton reads. -/
inductive Direction where
  | forward
  | backward
deriving DecidableEq, Repr

/-- The room that a set takes. -/
def CharSet.weight (d : Direction) (s : CharSet) : Nat :=
  match s.single? with
  | some n => 32 * encodedLength n
  | none =>
    if s.isAscii then 64 + 8 * s.ranges.length
    else
      let sequences := s.byteRanges
      let places := inside maxBytes sequences
      match d with
      | .forward => 32 + total (fun p => 32 + 8 * (branches p).length) places.eraseDups
      | .backward =>
        64 + 4 * sequences.length + 32 * total (fun p => (branches p).length) places

/-! ## Automata of patterns -/

/-- The room that a pattern takes; `isRest` tells whether it is what is left of a choice behind its
first pattern. -/
def Tree.weight (d : Direction) : Bool → Tree → Nat
  | _, empty | _, anchor _ => 32
  | _, set s => s.weight d
  | _, capture _ t =>
    match d with
    | .forward => 64 + t.weight d false
    | .backward => t.weight d false
  | _, seq a b => a.weight d false + b.weight d false
  | isRest, alt a b =>
    let both := a.weight d false + b.weight d true
    if isRest then 4 + both
    else
      match d, (alt a b).words? with
      | .forward, some words => wordsWeight words
      | .backward, some words => wordsWeight (words.map List.reverse)
      | _, none => 72 + both
  | _, repeated min max _ t =>
    let w := t.weight d false
    match max with
    | none =>
      if min = 0 then if t.minLength = 0 then 112 + w else 40 + w
      else min * w + 40
    | some max =>
      if min = max then min * w
      else if min = 0 ∧ max = 1 then 72 + w
      else (if min = 0 then 32 else min * w) + 32 + (max - min) * (40 + w)

/-- Whether a pattern is matched only where a text starts or, for an automaton that reads backward,
only where it ends. -/
def Tree.isBound (d : Direction) : Tree → Bool
  | anchor a => a == match d with
    | .forward => .textStart
    | .backward => .textEnd
  | capture _ t => t.isBound d
  | seq a b =>
    match d with
    | .forward => a.isBound d || a.isAlwaysEmpty && b.isBound d
    | .backward => b.isBound d || b.isAlwaysEmpty && a.isBound d
  | alt a b => a.isBound d && b.isBound d
  | repeated min _ _ t => 0 < min && t.isBound d
  | empty | set _ => false

/-- The room that a whole pattern takes: what leads to the places where it may begin, the note that
it is matched and, where it is read forward, the notes of where it begins and ends. -/
def Tree.wholeWeight (d : Direction) (t : Tree) : Nat :=
  let start := if t.isBound d then 32 else 112
  let notes := match d with
    | .forward => 96
    | .backward => 32
  start + notes + t.weight d false

/-- The room that a pattern may take. -/
def weightLimit : Nat := 10485760

/-- Whether a pattern takes no more room than it may. -/
def Tree.isLight (t : Tree) : Bool :=
  t.wholeWeight .forward ≤ weightLimit && t.wholeWeight .backward ≤ weightLimit

end SignOn.Pattern
