import SignOn.Pattern.Template
import SignOn.Text.Inspect

/-!
# Patterns

An engine tells which texts are patterns and what they match. Both depend on nothing but the text,
so a pattern is a text that its engine can read, and two patterns with the same text are equal. The
rest of the library works with every engine; `PatternEngine.usual` is the one of this library.
-/

namespace SignOn

/-- What can be done with a pattern that was read. -/
structure Matcher where
  /-- Whether the pattern occurs in a text. -/
  occursIn (text : String) : Bool
  /-- The text with the first match of the pattern replaced, or with all of them. -/
  replace (everywhere : Bool) (replacement text : String) : String

/-- A way of reading patterns. -/
structure PatternEngine where
  compile? (text : String) : Option Matcher

/-- A text that can be read as a pattern. -/
structure Pattern (E : PatternEngine) where
  text : String
  matcher : Matcher
  compiles : E.compile? text = some matcher

namespace Pattern

variable {E : PatternEngine}

/-- A pattern has one reading. -/
theorem eq_of_text_eq {p q : Pattern E} (h : p.text = q.text) : p = q := by
  cases p with
  | mk text m hm =>
    cases q with
    | mk text' m' hm' =>
      subst h
      obtain rfl : m = m' := Option.some.inj (hm.symm.trans hm')
      rfl

instance : DecidableEq (Pattern E) := fun p q =>
  if h : p.text = q.text then isTrue (eq_of_text_eq h)
  else isFalse fun e => h (congrArg Pattern.text e)

/-- Reads a pattern. -/
def ofText? (text : String) : Option (Pattern E) :=
  match h : E.compile? text with
  | some matcher => some ⟨text, matcher, h⟩
  | none => none

/-- A pattern as a developer sees it. -/
def inspect (p : Pattern E) : String :=
  "Regex(" ++ Text.Inspect.quote p.text ++ ")"

/-- The matches of a pattern in a text, one of them or all. -/
def Compiled.matches (c : Compiled) (everywhere : Bool) (text : List Char) :
    List (Nat × Nat × Match) :=
  c.matchesFrom text (if everywhere then 2 * text.length + 2 else 1) 0 none

/-- What can be done with a pattern of this library. -/
def Compiled.matcher (c : Compiled) : Matcher where
  occursIn text := (c.find? text.toList 0).isSome
  replace everywhere replacement text :=
    let cs := text.toList
    let found := c.matches everywhere cs
    String.ofList (c.replaceMatches cs (template replacement.toList) 0 found)

end Pattern

/-- The engine of this library. -/
def PatternEngine.usual : PatternEngine where
  compile? text := (Pattern.compile? text).map Pattern.Compiled.matcher

end SignOn
