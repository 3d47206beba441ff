/-!
# Modes of reading

How the parts of a pattern are meant. A pattern sets modes for the rest of a group, or for a group
of its own; a mode that it does not mention stays as it is.
-/

namespace SignOn.Pattern

/-- How the parts of a pattern are meant. -/
structure Reading where
  /-- Letter case does not count. -/
  anyCase : Bool := false
  /-- The text consists of lines. -/
  lines : Bool := false
  /-- A dot stands for a line break too. -/
  dotAll : Bool := false
  /-- Repetitions prefer the fewest times. -/
  lazy : Bool := false
  /-- Classes and letter case are those of ASCII. -/
  ascii : Bool := false
  /-- A carriage return ends a line too. -/
  returns : Bool := false
deriving DecidableEq, Repr

/-- Modes that a pattern sets; what is `none` stays as it is. -/
structure Modes where
  anyCase : Option Bool := none
  lines : Option Bool := none
  dotAll : Option Bool := none
  lazy : Option Bool := none
  ascii : Option Bool := none
  returns : Option Bool := none
  /-- White space and comments in the pattern do not count. -/
  spaced : Option Bool := none
deriving DecidableEq, Repr

/-- Sets the mode of a letter, which must not be set yet. -/
def Modes.set? (m : Modes) (letter : Char) (on : Bool) : Option Modes :=
  match letter with
  | 'i' => if m.anyCase.isNone then some { m with anyCase := some on } else none
  | 'm' => if m.lines.isNone then some { m with lines := some on } else none
  | 's' => if m.dotAll.isNone then some { m with dotAll := some on } else none
  | 'U' => if m.lazy.isNone then some { m with lazy := some on } else none
  | 'u' => if m.ascii.isNone then some { m with ascii := some (!on) } else none
  | 'R' => if m.returns.isNone then some { m with returns := some on } else none
  | 'x' => if m.spaced.isNone then some { m with spaced := some on } else none
  | _ => none

/-- The reading after modes are set. -/
def Reading.set (r : Reading) (m : Modes) : Reading where
  anyCase := m.anyCase.getD r.anyCase
  lines := m.lines.getD r.lines
  dotAll := m.dotAll.getD r.dotAll
  lazy := m.lazy.getD r.lazy
  ascii := m.ascii.getD r.ascii
  returns := m.returns.getD r.returns

end SignOn.Pattern
