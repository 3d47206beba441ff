import SignOn.Pattern.Compiled

/-!
# Patterns as programs

A pattern as a list of instructions. Following the instructions, where a choice lists its targets
in order of preference, leads through every way to match the pattern, the preferred one first. A
repetition of something that may be empty is entered at most once more after an empty round.
-/

namespace SignOn.Pattern

/-- One instruction. -/
inductive Instr where
  /-- Uses up a character of a set and goes on. -/
  | char (s : CharSet) (next : Nat)
  /-- Goes on if a condition holds. -/
  | anchor (a : Anchor) (next : Nat)
  /-- Notes the place in a slot and goes on. -/
  | save (slot : Nat) (next : Nat)
  /-- Goes on at either place; the first one is preferred. -/
  | choice (first second : Nat)
  /-- The pattern is matched. -/
  | accept
deriving DecidableEq, Repr, Inhabited

/-- A program. -/
abbrev Program := Array Instr

/-- A choice that prefers going round a loop or leaving it. -/
def loopChoice (greedy : Bool) (inside outside : Nat) : Instr :=
  if greedy then .choice inside outside else .choice outside inside

/-- Adds an instruction; answers its place. -/
def emit (instr : Instr) (p : Program) : Nat × Program :=
  (p.size, p.push instr)

/-- Adds something in front of a place as many times as given. -/
def emitTimes (f : Nat → Program → Nat × Program) : Nat → Nat → Program → Nat × Program
  | 0, next, p => (next, p)
  | n + 1, next, p =>
    let (start, p) := f next p
    emitTimes f n start p

/-- Adds something that may be left out in front of a place, each within the one before, as many
times as given; `exit` is where to go if it is left out. -/
def emitOptional (f : Nat → Program → Nat × Program) (greedy : Bool) (exit : Nat) :
    Nat → Nat → Program → Nat × Program
  | 0, next, p => (next, p)
  | n + 1, next, p =>
    let (start, p) := f next p
    let (choice, p) := emit (loopChoice greedy start exit) p
    emitOptional f greedy exit n choice p

/-- Adds something one or more times in front of a place. -/
def emitPlus (f : Nat → Program → Nat × Program) (greedy : Bool) (next : Nat) (p : Program) :
    Nat × Program :=
  let (loop, p) := emit .accept p
  let (start, p) := f loop p
  (start, p.setIfInBounds loop (loopChoice greedy start next))

/-- Adds something any number of times in front of a place. -/
def emitStar (f : Nat → Program → Nat × Program) (greedy mayBeEmpty : Bool) (next : Nat)
    (p : Program) : Nat × Program :=
  let (loop, p) := emit .accept p
  let (start, p) := f loop p
  let p := p.setIfInBounds loop (loopChoice greedy start next)
  if mayBeEmpty then emit (loopChoice greedy start next) p else (loop, p)

/-- Adds the instructions of a pattern that is followed by the place `next`. -/
def Tree.emit : Tree → Nat → Program → Nat × Program
  | .empty, next, p => (next, p)
  | .set s, next, p => Pattern.emit (.char s next) p
  | .anchor a, next, p => Pattern.emit (.anchor a next) p
  | .capture i t, next, p =>
    let (last, p) := Pattern.emit (.save (2 * i + 1) next) p
    let (start, p) := t.emit last p
    Pattern.emit (.save (2 * i) start) p
  | .seq a b, next, p =>
    let (middle, p) := b.emit next p
    a.emit middle p
  | .alt a b, next, p =>
    let (second, p) := b.emit next p
    let (first, p) := a.emit next p
    Pattern.emit (.choice first second) p
  | .repeated min max greedy t, next, p =>
    match max with
    | some max =>
      let (start, p) := emitOptional t.emit greedy next (max - min) next p
      emitTimes t.emit min start p
    | none =>
      if min = 0 then emitStar t.emit greedy (t.minLength == 0) next p
      else
        let (start, p) := emitPlus t.emit greedy next p
        emitTimes t.emit (min - 1) start p

/-- The program of a pattern, with the place where it starts. -/
def Compiled.program (c : Compiled) : Nat × Program :=
  (Tree.capture 0 c.tree).emit 0 #[.accept]

end SignOn.Pattern
