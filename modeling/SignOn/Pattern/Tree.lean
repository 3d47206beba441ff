import SignOn.Pattern.Token

/-!
# Patterns as trees

What a pattern asks of a text, with its brackets, bars and repetitions put in order. The makers
`ofList`, `oneOf` and `times` leave out what changes nothing, so that a tree has no more places
than its pattern needs: a choice between characters is one set, and a pattern that is always empty
is not repeated.
-/

namespace SignOn.Pattern

/-- A condition on a place in a text. -/
inductive Anchor where
  | textStart
  | textEnd
  /-- The start of a line; `returns` tells whether a carriage return ends a line too. -/
  | lineStart (returns : Bool)
  /-- The end of a line. -/
  | lineEnd (returns : Bool)
  /-- The edge of a word; `ascii` tells whether words consist of ASCII characters. -/
  | word (e : WordEdge) (ascii : Bool)
deriving DecidableEq, Repr

/-- A pattern. -/
inductive Tree where
  | empty
  | set (s : CharSet)
  | anchor (a : Anchor)
  | capture (index : Nat) (t : Tree)
  | seq (a b : Tree)
  /-- One of two patterns; the first one is preferred. -/
  | alt (a b : Tree)
  /-- A pattern so many times; the most or the fewest times are preferred. -/
  | repeated (min : Nat) (max : Option Nat) (greedy : Bool) (t : Tree)
deriving DecidableEq, Repr

namespace Tree

/-! ## Lengths -/

/-- The least number of characters that a pattern uses up. -/
def minLength : Tree → Nat
  | empty | anchor _ => 0
  | set _ => 1
  | capture _ t => t.minLength
  | seq a b => a.minLength + b.minLength
  | alt a b => Nat.min a.minLength b.minLength
  | repeated min _ _ t => min * t.minLength

/-- Whether a pattern can be matched without using up a character, and in no other way. -/
def isAlwaysEmpty : Tree → Bool
  | empty | anchor _ => true
  | set _ => false
  | capture _ t => t.isAlwaysEmpty
  | seq a b | alt a b => a.isAlwaysEmpty && b.isAlwaysEmpty
  | repeated _ _ _ t => t.isAlwaysEmpty

/-! ## Makers -/

/-- Patterns one behind the other. -/
def ofList : List Tree → Tree
  | [] => empty
  | t :: ts =>
    match t, ofList ts with
    | empty, rest => rest
    | t, empty => t
    | t, rest => seq t rest

/-- The patterns between which a pattern chooses, in order. -/
def choices : Tree → List Tree
  | alt a b => a.choices ++ b.choices
  | t => [t]

/-- The set of a pattern that stands for one character. -/
def set? : Tree → Option CharSet
  | set s => some s
  | _ => none

/-- One of several patterns; a pattern in front is preferred. -/
def altOf : List Tree → Tree
  | [] => empty
  | [t] => t
  | t :: ts => alt t (altOf ts)

/-- The set of several patterns that are all single characters, or all of them proper sets. -/
def joined? (ts : List Tree) : Option CharSet := do
  let sets ← ts.mapM set?
  if sets.all (·.single?.isSome) || sets.all (·.single?.isNone) then some (.unionOf sets)
  else none

/-- One of several patterns. Where all of them are single characters, or all of them are proper
sets, they become one set. -/
def oneOf (ts : List Tree) : Tree :=
  match ts.flatMap choices with
  | [] => empty
  | [t] => t
  | ts =>
    match joined? ts with
    | some s => set s
    | none => altOf ts

/-- A pattern so many times. -/
def times (min : Nat) (max : Option Nat) (greedy : Bool) (t : Tree) : Tree :=
  let (min, max) :=
    if t.isAlwaysEmpty then (Nat.min min 1, some (Nat.min (max.getD 1) 1)) else (min, max)
  if max = some 0 then empty
  else if min = 1 ∧ max = some 1 then t
  else repeated min max greedy t

end Tree

end SignOn.Pattern
