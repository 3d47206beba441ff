import SignOn.Kerberos.Rule

/-!
# Sets of rules for short names

The rules of a set are tried in order; the first one that applies gives the short name of a
principal. Without a rule that applies, the mechanism decides.
-/

namespace SignOn

/-- Rules in the order in which they are tried. -/
structure RuleSet (E : PatternEngine) where
  rules : List (Rule E) := [.default]
  mechanism : Mechanism := .hadoop
  /-- The realm to whose names the default rule applies. -/
  defaultRealm : Option String := none
deriving DecidableEq

namespace RuleSet

variable {E : PatternEngine}

/-- Reads rules one behind the other, with or without white space between them, in so many rounds
at most. -/
def rulesIn : Nat → List Char → Result (List (Rule E))
  | _, [] => .ok []
  | 0, _ :: _ => .ok []
  | rounds + 1, c :: cs => do
    let (rule, rest) ← Rule.take (c :: cs)
    let rules ← rulesIn rounds (rest.dropWhile Text.isBlank)
    .ok (rule :: rules)

/-- Reads rules. Every rule uses up characters. -/
def parse (s : String) : Result (RuleSet E) := do
  let cs := Text.stripBy Text.isBlank s.toList
  let rules ← rulesIn cs.length cs
  .ok { rules }

/-- The text of a set of rules, one rule a line. -/
def text (r : RuleSet E) : String :=
  "\n".intercalate (r.rules.map Rule.text)

/-- A set of rules as a developer sees it. -/
def inspect (r : RuleSet E) : String :=
  Text.Inspect.record "NameRules" [
    ("rules", Text.Inspect.list (r.rules.map Rule.inspect)),
    ("mechanism", r.mechanism.inspect),
    ("default_realm", Text.Inspect.option (r.defaultRealm.map Text.Inspect.quote))]

/-- The parts of a name as rules see them: the realm first, which may be empty. -/
def params (name : PrincipalName) : List String :=
  name.realm.getD "" :: name.service :: name.host.toList

/-- The outcome of the first rule that applies or fails. -/
def firstOutcome (mechanism : Mechanism) (defaultRealm : Option String) (params : List String) :
    List (Rule E) → Result (Option String)
  | [] => .ok none
  | rule :: rules => do
    match ← rule.apply params mechanism defaultRealm with
    | some short => .ok (some short)
    | none => firstOutcome mechanism defaultRealm params rules

/-- The short name of a principal. A name that is only a service is its own short name. -/
def shortName (r : RuleSet E) (name : PrincipalName) : Result String :=
  if name.host.isNone && name.realm.isNone then .ok name.service
  else do
    match ← firstOutcome r.mechanism r.defaultRealm (params name) r.rules with
    | some short => .ok short
    | none =>
      match r.mechanism with
      | .hadoop => negotiationFails (.noRuleApplies name.text)
      | .mit => .ok name.text

end RuleSet

end SignOn
