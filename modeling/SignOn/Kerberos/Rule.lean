import SignOn.Kerberos.Name
import SignOn.Pattern.Basic
import SignOn.Text.Blank
import SignOn.Text.Case

/-!
# Rules for short names

A rule tells how the name of a principal becomes a short user name. The rule `DEFAULT` applies to
names in the default realm and takes their service. A rule such as

    RULE:[2:$1@$0](.*@FOO.COM)s/@.*//g/L

applies to names with two parts besides the realm. It fills its template, in which `$0` is the
realm and `$1` and `$2` are the parts; the result must match the pattern in parentheses as a whole;
then the pattern behind the `s` is replaced, once or, with a `g`, everywhere; and an `L` makes
everything lower-case. All but the template may be left out.
-/

namespace SignOn

/-- How strictly rules are applied. -/
inductive Mechanism where
  /-- Every name must become a simple one. -/
  | hadoop
  /-- Names to which no rule applies stay as they are. -/
  | mit
deriving DecidableEq, Repr

namespace Mechanism

/-- Reads the name of a mechanism, in any letter case. -/
def parse (s : String) : Result Mechanism :=
  if Text.sameText s "hadoop" then .ok .hadoop
  else if Text.sameText s "mit" then .ok .mit
  else misconfigured (.unknownMechanism s)

/-- A mechanism as a developer sees it. -/
def inspect : Mechanism → String
  | .hadoop => "Hadoop"
  | .mit => "Mit"

end Mechanism

/-- What a rule replaces. -/
structure Substitution (E : PatternEngine) where
  pattern : Pattern E
  replacement : String
  everywhere : Bool
deriving DecidableEq

/-- What a rule other than the default one does. -/
structure Mapping (E : PatternEngine) where
  /-- How many parts besides the realm a name must have. -/
  components : Nat
  template : String
  /-- What the filled template must match: a pattern for the whole text. -/
  matcher : Option (Pattern E)
  substitution : Option (Substitution E)
  lowercase : Bool
deriving DecidableEq

/-- A rule. -/
inductive Rule (E : PatternEngine) where
  | default
  | mapping (m : Mapping E)
deriving DecidableEq

namespace Rule

variable {E : PatternEngine}

/-! ## Templates -/

/-- Splits a template at its dollar signs: the text in front of the first one, and each further
text behind the digits that follow a dollar sign. -/
def templateParts (cs : List Char) : List Char × List (List Char × List Char) :=
  match Text.pieces '$' cs with
  | [] => ([], [])
  | literal :: rest =>
    (literal, rest.map fun piece =>
      (piece.takeWhile Text.isDigitChar, piece.dropWhile Text.isDigitChar))

/-- The part of a name that digits in a template stand for. -/
def part (template : String) (params : List String) (digits : List Char) : Result String :=
  match Text.Decimal.word64? digits with
  | none => misconfigured (.badTemplate template)
  | some index =>
    match params[index]? with
    | some value => .ok value
    | none => misconfigured (.noSuchPart index template (params.length - 1))

/-- A template filled with the parts of a name, the realm first. -/
def fill (template : String) (params : List String) : Result String := do
  let (literal, refs) := templateParts template.toList
  let filled ← refs.mapM fun (digits, behind) => do
    let value ← part template params digits
    .ok (value ++ String.ofList behind)
  .ok (String.ofList literal ++ String.join filled)

/-! ## Writing rules -/

/-- What stands around a pattern that must match a whole text. -/
def wholeOpening : String := "^(?:"

/-- What stands behind a pattern that must match a whole text. -/
def wholeClosing : String := ")$"

/-- The pattern that must match a whole text, as it was before it was made to. -/
def innerPattern (p : Pattern E) : String :=
  let cs := p.text.toList
  String.ofList ((cs.drop wholeOpening.length).take
    (cs.length - wholeOpening.length - wholeClosing.length))

/-- The text of a substitution. -/
def substitutionText (s : Substitution E) : String :=
  "s/" ++ s.pattern.text ++ "/" ++ s.replacement ++ "/" ++ (if s.everywhere then "g" else "")

/-- The text of a rule. -/
def text : Rule E → String
  | default => "DEFAULT"
  | mapping m =>
    "RULE:[" ++ String.ofList (Text.Decimal.printNat m.components) ++ ":" ++ m.template ++ "]" ++
      (m.matcher.map fun p => "(" ++ innerPattern p ++ ")").getD "" ++
      (m.substitution.map substitutionText).getD "" ++ (if m.lowercase then "/L" else "")

/-- A rule as a developer sees it. -/
def inspect : Rule E → String
  | default => "Default"
  | mapping m =>
    Text.Inspect.record "Mapping" [
      ("components", String.ofList (Text.Decimal.printNat m.components)),
      ("format", Text.Inspect.quote m.template),
      ("matcher", Text.Inspect.option (m.matcher.map Pattern.inspect)),
      ("substitution", Text.Inspect.option (m.substitution.map fun s =>
        Text.Inspect.tuple [s.pattern.inspect, Text.Inspect.quote s.replacement,
          Text.Inspect.bool s.everywhere])),
      ("lowercase", Text.Inspect.bool m.lowercase)]

/-! ## Reading rules -/

/-- Takes a text off the front. -/
def takeText? (head : String) (cs : List Char) : Option (List Char) :=
  if head.toList.isPrefixOf cs then some (cs.drop head.toList.length) else none

/-- A text that may stand at the front, and what follows it. -/
def takeSign (sign : Char) (cs : List Char) : Bool × List Char :=
  match cs with
  | c :: rest => if c = sign then (true, rest) else (false, cs)
  | [] => (false, cs)

/-- The parts of a rule as they stand in its text. -/
structure Draft where
  components : List Char
  template : List Char
  matcher : Option (List Char)
  substitution : Option (List Char × List Char × Bool)

/-- Takes a matcher off the front, if there is one. -/
def takeMatcher (cs : List Char) : Option (List Char) × List Char :=
  match cs with
  | '(' :: rest =>
    match Text.cut? ')' rest with
    | some (pattern, rest) => (some pattern, rest)
    | none => (none, cs)
  | _ => (none, cs)

/-- Takes a substitution off the front, if there is one. -/
def takeSubstitution (cs : List Char) : Option (List Char × List Char × Bool) × List Char :=
  match cs with
  | 's' :: '/' :: rest =>
    match Text.cut? '/' rest with
    | some (pattern, rest) =>
      match Text.cut? '/' rest with
      | some (replacement, rest) =>
        let (everywhere, rest) := takeSign 'g' rest
        (some (pattern, replacement, everywhere), rest)
      | none => (none, cs)
    | none => (none, cs)
  | _ => (none, cs)

/-- Takes the body of a rule off the front; the body of the default rule has no parts. -/
def takeBody? (cs : List Char) : Option (Option Draft × List Char) :=
  match takeText? "DEFAULT" cs with
  | some rest => some (none, rest)
  | none => do
    let rest ← takeText? "RULE:[" cs
    let components := rest.takeWhile Text.isDigitChar
    let rest ← takeText? ":" (rest.dropWhile Text.isDigitChar)
    let (template, rest) ← Text.cut? ']' rest
    let (matcher, rest) := takeMatcher rest
    let (substitution, rest) := takeSubstitution rest
    some (some { components, template, matcher, substitution }, rest)

/-- Takes the signs behind the body of a rule off the front. -/
def takeLowercase (cs : List Char) : Bool × List Char :=
  takeSign 'L' (takeSign '/' cs).2

/-- Reads a pattern in a rule. -/
def readPattern (text : String) : Result (Pattern E) :=
  match Pattern.ofText? text with
  | some p => .ok p
  | none => misconfigured .invalidPattern

/-- Reads how many parts a rule asks for; `source` is the text at which the rule begins. -/
def readComponents (source : String) (digits : List Char) : Result Nat :=
  match Text.Decimal.word64? digits with
  | some n => .ok n
  | none => misconfigured (.invalidRule source)

/-- Reads the matcher of a rule, if there is one, as a pattern for a whole text. -/
def readMatcher : Option (List Char) → Result (Option (Pattern E))
  | none => .ok none
  | some pattern => do
    let p ← readPattern (wholeOpening ++ String.ofList pattern ++ wholeClosing)
    .ok (some p)

/-- Reads the substitution of a rule, if there is one. -/
def readSubstitution :
    Option (List Char × List Char × Bool) → Result (Option (Substitution E))
  | none => .ok none
  | some (pattern, replacement, everywhere) => do
    let p ← readPattern (String.ofList pattern)
    .ok (some { pattern := p, replacement := String.ofList replacement, everywhere })

/-- The rule of a draft; `source` is the text at which the rule begins. -/
def ofDraft (source : String) (draft : Draft) (lowercase : Bool) : Result (Rule E) := do
  let components ← readComponents source draft.components
  let matcher ← readMatcher draft.matcher
  let substitution ← readSubstitution draft.substitution
  .ok (.mapping {
    components, template := String.ofList draft.template, matcher, substitution, lowercase })

/-- Takes a rule off the front of a text. -/
def take (cs : List Char) : Result (Rule E × List Char) :=
  match takeBody? cs with
  | none => misconfigured (.invalidRule (String.ofList cs))
  | some (draft, rest) =>
    let (lowercase, rest) := takeLowercase rest
    match draft with
    | none => .ok (.default, rest)
    | some draft => do
      let rule ← ofDraft (String.ofList cs) draft lowercase
      .ok (rule, rest)

/-! ## Applying rules -/

/-- What a rule makes of a name before letters become small, if it applies. The parts of the name
are given with the realm first; a name without a realm has an empty one. -/
def map (rule : Rule E) (params : List String) (defaultRealm : Option String) :
    Result (Option String) :=
  match rule with
  | default =>
    match params with
    | realm :: service :: _ => .ok (if defaultRealm = some realm then some service else none)
    | _ => .ok none
  | mapping m =>
    if params.length = m.components + 1 then do
      let base ← fill m.template params
      if m.matcher.all (·.matcher.occursIn base) then
        .ok (some (match m.substitution with
          | none => base
          | some s => s.pattern.matcher.replace s.everywhere s.replacement base))
      else .ok none
    else .ok none

/-- Whether a rule makes letters small. -/
def isLowercase : Rule E → Bool
  | default => false
  | mapping m => m.lowercase

/-- Whether a short name has a single part. -/
def isSimple (name : String) : Bool :=
  !name.toList.any PrincipalName.isSeparator

/-- The short name that a rule gives, if it applies. -/
def apply (rule : Rule E) (params : List String) (mechanism : Mechanism)
    (defaultRealm : Option String) : Result (Option String) := do
  match ← rule.map params defaultRealm with
  | none => .ok none
  | some name =>
    if mechanism = .hadoop ∧ !isSimple name then
      negotiationFails (.nonSimpleName name rule.text)
    else .ok (some (if rule.isLowercase then Text.lowercase name else name))

end Rule

end SignOn
