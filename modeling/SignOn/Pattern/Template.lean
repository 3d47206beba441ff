import SignOn.Pattern.Search
import SignOn.Text.Decimal
import SignOn.Text.Split

/-!
# Replacement

A replacement is a text in which `$name` and `${name}` stand for the characters that a group took,
and `$$` for a dollar sign. Without braces a name is as long as it can be; a name of digits is the
number of a group. A group that is not there, or takes no part in the match, stands for nothing.
-/

namespace SignOn.Pattern

/-- A part of a replacement. -/
inductive TemplatePart where
  | char (c : Char)
  | group (name : List Char)
deriving DecidableEq, Repr

/-- Whether a character may stand in a name without braces. -/
def isRefChar (c : Char) : Bool :=
  c == '_' || c.isAlphanum

/-- The parts of a replacement, in so many rounds at most. -/
def templateIn : Nat → List Char → List TemplatePart
  | 0, _ => []
  | _, [] => []
  | rounds + 1, '$' :: '$' :: rest => .char '$' :: templateIn rounds rest
  | rounds + 1, '$' :: '\x7b' :: rest =>
    match Text.cut? '\x7d' rest with
    | some (name, rest) => .group name :: templateIn rounds rest
    | none => .char '$' :: templateIn rounds ('\x7b' :: rest)
  | rounds + 1, '$' :: rest =>
    let name := rest.takeWhile isRefChar
    if name.isEmpty then .char '$' :: templateIn rounds rest
    else .group name :: templateIn rounds (rest.dropWhile isRefChar)
  | rounds + 1, c :: rest => .char c :: templateIn rounds rest

/-- The parts of a replacement. Every part uses up characters. -/
def template (cs : List Char) : List TemplatePart :=
  templateIn cs.length cs

/-- The number of the group with a name. -/
def Compiled.groupIndex? (c : Compiled) (name : List Char) : Option Nat :=
  match Text.Decimal.word64? name with
  | some n => some n
  | none => (c.groups.findIdx? (· == some (String.ofList name))).map (· + 1)

/-- The characters that a part of a replacement stands for. -/
def Compiled.fill (c : Compiled) (text : List Char) (m : Match) : TemplatePart → List Char
  | .char ch => [ch]
  | .group name =>
    match (c.groupIndex? name).bind (groupSpan? m) with
    | some (first, last) => (text.drop first).take (last - first)
    | none => []

/-- The text with each of the given matches replaced; `ended` is where the match before ended. -/
def Compiled.replaceMatches (c : Compiled) (text : List Char) (parts : List TemplatePart)
    (ended : Nat) : List (Nat × Nat × Match) → List Char
  | [] => text.drop ended
  | (first, last, m) :: rest =>
    (text.drop ended).take (first - ended) ++ parts.flatMap (c.fill text m) ++
      c.replaceMatches text parts last rest

end SignOn.Pattern
