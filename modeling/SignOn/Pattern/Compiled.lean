import SignOn.Pattern.Weight

/-!
# Patterns put together

The tokens of a pattern put together by their brackets, bars and repetitions. The groups that
capture are numbered by their opening brackets; the whole pattern is group zero. A pattern may
neither be too deep nor weigh too much.
-/

namespace SignOn.Pattern

/-! ## Characters and sets -/

/-- The set of one character, which must be ASCII if it is written as a byte where bytes beyond
ASCII would not be text. -/
def Reading.charSet? (r : Reading) (c : Char) (isByte : Bool) : Option CharSet :=
  if r.ascii && isByte && 128 ≤ c.toNat then none else some (r.fold (.one c))

/-- The set for which a dot stands; it cannot consist of ASCII characters alone. -/
def Reading.dotSet? (r : Reading) : Option CharSet :=
  if r.ascii then none
  else if r.dotAll then some .everything
  else if r.returns then some (CharSet.union (.one '\n') (.one '\r')).complement
  else some (CharSet.one '\n').complement

/-! ## Groups -/

/-- A part of an alternative. -/
structure Part where
  /-- What the part asks for; a place where modes were set has none, and cannot be repeated. -/
  tree? : Option Tree
  /-- How deep groups, rows and repetitions stand within each other. -/
  depth : Nat := 0

/-- How deep several things in a row are. -/
def rowDepth : List Nat → Nat
  | [] => 0
  | [d] => d
  | ds => ds.foldl Nat.max 0 + 1

/-- A group that is still open. -/
structure OpenTree where
  /-- The number of the group, if it captures. -/
  index : Option Nat
  /-- The alternatives that are complete, latest first. -/
  done : List (Tree × Nat) := []
  /-- The parts of the alternative at hand, latest first. -/
  parts : List Part := []
  reading : Reading

/-- The alternative at hand, with its depth. -/
def OpenTree.alternative (o : OpenTree) : Tree × Nat :=
  (.ofList (o.parts.reverse.filterMap Part.tree?), rowDepth (o.parts.map Part.depth))

/-- What stands in a group, with its depth. -/
def OpenTree.content (o : OpenTree) : Tree × Nat :=
  let alternatives := (o.alternative :: o.done).reverse
  (.oneOf (alternatives.map Prod.fst), rowDepth (alternatives.map Prod.snd))

/-- A group as a part, when it closes. -/
def OpenTree.part (o : OpenTree) : Part :=
  let (t, depth) := o.content
  match o.index with
  | some i => ⟨some (.capture i t), depth + 1⟩
  | none => ⟨some t, depth + 1⟩

/-- Adds a part. -/
def OpenTree.add (o : OpenTree) (p : Part) : OpenTree :=
  { o with parts := p :: o.parts }

/-- A pattern of which the tokens so far are put together. -/
structure Growing where
  /-- The groups around the innermost one that is open. -/
  outer : List OpenTree := []
  inner : OpenTree := { index := none, reading := {} }
  /-- The names of the groups that capture, in order. -/
  groups : List (Option String) := []

namespace Growing

/-- Adds a part to the innermost group. -/
def add (g : Growing) (t : Tree) (depth : Nat := 0) : Growing :=
  { g with inner := g.inner.add ⟨some t, depth⟩ }

/-- Opens a group. -/
def openGroup (g : Growing) (index : Option Nat) (reading : Reading) : Growing :=
  { g with outer := g.inner :: g.outer, inner := { index, reading } }

/-- Adds one token; fails if it cannot stand where it does. -/
def step (g : Growing) (token : Token) : Option Growing :=
  let r := g.inner.reading
  match token with
  | .char c isByte => (r.charSet? c isByte).map fun s => g.add (.set s)
  | .set e => (e.set? r).map fun s => g.add (.set s) (e.depth false)
  | .dot => r.dotSet?.map fun s => g.add (.set s)
  | .caret => some (g.add (.anchor (if r.lines then .lineStart r.returns else .textStart)))
  | .dollar => some (g.add (.anchor (if r.lines then .lineEnd r.returns else .textEnd)))
  | .textStart => some (g.add (.anchor .textStart))
  | .textEnd => some (g.add (.anchor .textEnd))
  | .edge e => some (g.add (.anchor (.word e r.ascii)))
  | .openGroup name =>
    if name.isSome && g.groups.contains name then none
    else some { g.openGroup (some (g.groups.length + 1)) r with groups := g.groups ++ [name] }
  | .openPlain modes => some (g.openGroup none (r.set modes))
  | .setModes modes =>
    some { g with inner := { g.inner.add ⟨none, 0⟩ with reading := r.set modes } }
  | .close =>
    match g.outer with
    | [] => none
    | around :: outer => some { g with outer, inner := around.add g.inner.part }
  | .bar =>
    let done := g.inner.alternative :: g.inner.done
    some { g with inner := { g.inner with done, parts := [] } }
  | .repeated min max greedy =>
    match g.inner.parts with
    | ⟨some t, depth⟩ :: parts =>
      let part : Part := ⟨some (.times min max (greedy != r.lazy) t), depth + 1⟩
      some { g with inner := { g.inner with parts := part :: parts } }
    | _ => none

end Growing

/-- How deep a pattern may be. -/
def depthLimit : Nat := 250

/-- A pattern with the names of its groups. -/
structure Compiled where
  tree : Tree
  groups : List (Option String)
deriving DecidableEq, Repr

/-- Reads a pattern. -/
def compile? (text : String) : Option Compiled := do
  let tokens ← tokens? text.toList
  let g ← tokens.foldlM Growing.step {}
  let (tree, depth) := g.inner.content
  if g.outer.isEmpty && depth ≤ depthLimit && tree.isLight then some ⟨tree, g.groups⟩ else none

end SignOn.Pattern
