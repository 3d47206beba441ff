import SignOn.Text.Utf8

/-!
# Generated secrets

A generator hands out one secret of 32 bytes after another. Where they come from is left open: it
is a stream that the surroundings provide.
-/

namespace SignOn

open SignOn.Text (Bytes)

/-- A stream of secrets with the place where the next one is taken. -/
structure Generator where
  stream : Nat → Vector UInt8 32
  position : Nat := 0

namespace Generator

/-- The next secret. -/
def secret (g : Generator) : Bytes :=
  (g.stream g.position).toList

/-- The generator after the next secret was taken. -/
def advance (g : Generator) : Generator :=
  { g with position := g.position + 1 }

end Generator

end SignOn
