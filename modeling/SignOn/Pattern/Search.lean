import SignOn.Pattern.Program

/-!
# Searching for a pattern

All ways through a program are followed at once, character by character. The ways are kept in order
of preference, and of two ways that stand at the same instruction only the preferred one goes on;
so a search takes time in proportion to the text, and it finds the preferred one of the matches
that begin furthest to the left.
-/

namespace SignOn.Pattern

/-- The places noted in the slots of a program. -/
abbrev Slots := Array (Option Nat)

/-- A way through a program: the instruction it stands at and the places noted on it. -/
structure Way where
  place : Nat
  slots : Slots
deriving Repr

/-- A place in a text: its number and the characters on both sides. -/
structure Spot where
  index : Nat
  before : Option Char
  after : Option Char

/-- Whether a character is a word character; the ends of the text are not. -/
def isWordAt (ascii : Bool) (c : Option Char) : Bool :=
  match c with
  | some c => if ascii then c.isAlphanum || c == '_' else Text.isWordChar c
  | none => false

/-- Whether a place is of a kind with respect to words, given whether word characters stand on its
sides. -/
def WordEdge.meets (before after : Bool) : WordEdge → Bool
  | .edge => before != after
  | .noEdge => before == after
  | .start => !before && after
  | .finish => before && !after
  | .startHalf => !before
  | .finishHalf => !after

/-- Whether a line starts at a place. A carriage return with a line feed behind it ends no line, if
carriage returns count. -/
def Spot.startsLine (spot : Spot) (returns : Bool) : Bool :=
  match spot.before with
  | none | some '\n' => true
  | some '\r' => returns && spot.after != some '\n'
  | _ => false

/-- Whether a line ends at a place. -/
def Spot.endsLine (spot : Spot) (returns : Bool) : Bool :=
  match spot.after with
  | none => true
  | some '\n' => !returns || spot.before != some '\r'
  | some '\r' => returns
  | _ => false

/-- Whether a condition holds at a place. -/
def Spot.meets (spot : Spot) : Anchor → Bool
  | .textStart => spot.before.isNone
  | .textEnd => spot.after.isNone
  | .lineStart returns => spot.startsLine returns
  | .lineEnd returns => spot.endsLine returns
  | .word e ascii => e.meets (isWordAt ascii spot.before) (isWordAt ascii spot.after)

/-- The ways at a place, the preferred one first, and which instructions have been reached. -/
structure Front where
  ways : Array Way := #[]
  reached : Array Bool

/-- Follows a way from an instruction up to those that use up characters or accept. An instruction
that was reached before is not followed again, so as many steps as there are instructions are
enough. -/
def explore (p : Program) (spot : Spot) : Nat → Nat → Slots → Front → Front
  | 0, _, _, front => front
  | steps + 1, place, slots, front =>
    if front.reached.getD place true then front
    else
      let front := { front with reached := front.reached.setIfInBounds place true }
      match p[place]? with
      | none => front
      | some (.char _ _) | some .accept => { front with ways := front.ways.push ⟨place, slots⟩ }
      | some (.anchor a next) =>
        if spot.meets a then explore p spot steps next slots front else front
      | some (.save slot next) =>
        explore p spot steps next (slots.setIfInBounds slot (some spot.index)) front
      | some (.choice first second) =>
        explore p spot steps second slots (explore p spot steps first slots front)

/-- The front without any way. -/
def Front.start (p : Program) : Front where
  reached := Array.replicate p.size false

/-- Takes the ways of a place over a character, in order, up to the first one that accepts. Answers
the front behind the character and the slots of the way that accepts. -/
def advance (p : Program) (c : Option Char) (spot : Spot) :
    List Way → Front → Front × Option Slots
  | [], front => (front, none)
  | way :: ways, front =>
    match p[way.place]? with
    | some .accept => (front, some way.slots)
    | some (.char s next) =>
      if c.any s.contains then
        advance p c spot ways (explore p spot (p.size + 1) next way.slots front)
      else advance p c spot ways front
    | _ => advance p c spot ways front

/-- Searches the rest of a text. `found` is the best match so far; once there is one, no new way
begins. -/
def searchFrom (p : Program) (start : Nat) (blank : Slots) (spot : Spot) (front : Front)
    (found : Option Slots) : List Char → Option Slots
  | [] =>
    let front := if found.isSome then front else explore p spot (p.size + 1) start blank front
    (advance p none spot front.ways.toList (Front.start p)).2.or found
  | c :: cs =>
    let front := if found.isSome then front else explore p spot (p.size + 1) start blank front
    if front.ways.isEmpty && found.isSome then found
    else
      let behind : Spot := ⟨spot.index + 1, some c, cs.head?⟩
      let (ahead, match?) := advance p (some c) behind front.ways.toList (Front.start p)
      searchFrom p start blank behind ahead (match?.or found) cs

/-- The places that the groups of a pattern took in a match. -/
abbrev Match := Slots

/-- Where a group begins and ends in a match, if it takes part. -/
def groupSpan? (m : Match) (index : Nat) : Option (Nat × Nat) := do
  let first ← (← m[2 * index]?)
  let last ← (← m[2 * index + 1]?)
  some (first, last)

/-- The match that begins furthest to the left at a place or behind it. -/
def Compiled.find? (c : Compiled) (text : List Char) (origin : Nat) : Option Match :=
  if origin ≤ text.length then
    let (start, p) := c.program
    let before := if origin = 0 then none else text[origin - 1]?
    let rest := text.drop origin
    let blank := Array.replicate (2 * (c.groups.length + 1)) none
    searchFrom p start blank ⟨origin, before, rest.head?⟩ (Front.start p) none rest
  else none

/-- The matches of a pattern one behind the other, as many as given at most. A match without
characters does not stand right behind the match before it. -/
def Compiled.matchesFrom (c : Compiled) (text : List Char) :
    Nat → Nat → Option Nat → List (Nat × Nat × Match)
  | 0, _, _ => []
  | count + 1, place, lastEnd =>
    let found := (c.find? text place).bind fun m => (groupSpan? m 0).map fun span => (span, m)
    let found := match found with
      | some ((first, last), m) =>
        if first = last ∧ some last = lastEnd then
          (c.find? text (place + 1)).bind fun m => (groupSpan? m 0).map fun span => (span, m)
        else some ((first, last), m)
      | none => none
    match found with
    | some ((first, last), m) => (first, last, m) :: matchesFrom c text count last (some last)
    | none => []

end SignOn.Pattern
