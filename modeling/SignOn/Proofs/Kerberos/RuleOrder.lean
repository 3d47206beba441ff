import SignOn.Proofs.Kerberos.RuleGrammar

/-!
# The order of rules

A rule decides about a name by a short name or by an error, or it does not apply
(`Rule.decision?`). The first rule of a set that decides gives the short name of a principal, and
only if none does the mechanism decides (`RuleSet.shortName_eq`). So the rules of two texts that are
put one behind the other decide in turn: those of the first text, then those of the second
(`RuleSet.composition`).
-/

namespace SignOn

variable {E : PatternEngine}

/-- What a rule decides about a name: a short name or an error, or nothing if it does not apply. -/
def Rule.decision? (rule : Rule E) (mechanism : Mechanism) (defaultRealm : Option String)
    (name : PrincipalName) : Option (Result String) :=
  match rule.apply (RuleSet.params name) mechanism defaultRealm with
  | .ok none => none
  | .ok (some short) => some (.ok short)
  | .error e => some (.error e)

/-- The short name of a principal about whom no rule decides. -/
def Mechanism.unmapped : Mechanism → PrincipalName → Result String
  | hadoop, name => negotiationFails (.noRuleApplies name.text)
  | mit, name => .ok name.text

namespace RuleSet

variable {mechanism : Mechanism} {defaultRealm : Option String} {name : PrincipalName}

/-- The first decision of a list of rules. -/
def firstDecision? (rules : List (Rule E)) (mechanism : Mechanism) (defaultRealm : Option String)
    (name : PrincipalName) : Option (Result String) :=
  rules.findSome? (·.decision? mechanism defaultRealm name)

/-- Trying the rules in turn leads to the first decision; an error is one and ends the search. -/
theorem firstOutcome_eq (rules : List (Rule E)) :
    firstOutcome mechanism defaultRealm (params name) rules =
      match firstDecision? rules mechanism defaultRealm name with
      | none => .ok none
      | some decision => decision.map some := by
  induction rules with
  | nil => rfl
  | cons rule rules ih =>
    rw [firstDecision?, List.findSome?_cons, Rule.decision?, firstOutcome]
    match rule.apply (params name) mechanism defaultRealm with
    | .ok none => exact ih
    | .ok (some short) => rfl
    | .error e => rfl

theorem shortName_eq {r : RuleSet E} (h : name.host ≠ none ∨ name.realm ≠ none) :
    r.shortName name =
      (firstDecision? r.rules r.mechanism r.defaultRealm name).getD
        (r.mechanism.unmapped name) := by
  have hParts : ¬ (name.host.isNone && name.realm.isNone) = true := by
    simpa [← not_and_or] using h
  rw [shortName, if_neg hParts, firstOutcome_eq]
  match firstDecision? r.rules r.mechanism r.defaultRealm name with
  | none => cases r.mechanism <;> rfl
  | some (.ok short) => rfl
  | some (.error e) => rfl

/-- **Sets of rules compose.** Two texts of rules with a line break between them are the text of the
rules of the first followed by those of the second. About a name with a host or a realm the first
rule decides that does not let it pass, by a short name or an error: one of the first text, else one
of the second; and if there is none, the mechanism does. -/
theorem composition {a b : String} {ra rb : RuleSet E} (ha : parse a = .ok ra)
    (hb : parse b = .ok rb) :
    parse (a ++ "\n" ++ b) = .ok { rules := ra.rules ++ rb.rules } ∧
      ∀ (mechanism : Mechanism) (defaultRealm : Option String) (name : PrincipalName),
        name.host ≠ none ∨ name.realm ≠ none →
        shortName { rules := ra.rules ++ rb.rules, mechanism, defaultRealm } name =
          ((firstDecision? ra.rules mechanism defaultRealm name).or
            (firstDecision? rb.rules mechanism defaultRealm name)).getD
              (mechanism.unmapped name) := by
  obtain ⟨rules, rfl, hSpelled⟩ := parse_eq_ok_iff.mp ha
  obtain ⟨rules', rfl, hSpelled'⟩ := parse_eq_ok_iff.mp hb
  refine ⟨parse_eq_ok_iff.mpr ⟨_, rfl, ?_⟩, ?_⟩
  · simpa using hSpelled.append hSpelled'.line_append
  · intro mechanism defaultRealm name hName
    rw [shortName_eq hName]
    simp only [firstDecision?, List.findSome?_append]

/-- The rule for the default realm lets the name pass, the next one gives a name that is not simple,
and the rules of the second text are not tried, although one of them would give a short name. -/
theorem composition_stopped :
    let first := "DEFAULT RULE:[1:$1/$0](.*b|a.*)"
    let second := "RULE:[1:$1]\nDEFAULT"
    let name : PrincipalName := { service := "ann", realm := some "R" }
    let failure : Result String :=
      negotiationFails (.nonSimpleName "ann/R" "RULE:[1:$1/$0](.*b|a.*)")
    ∃ ra rb : RuleSet .usual, parse first = .ok ra ∧ parse second = .ok rb ∧
      rb.shortName name = .ok "ann" ∧
      parse (first ++ "\n" ++ second) = .ok { rules := ra.rules ++ rb.rules } ∧
      shortName { rules := ra.rules ++ rb.rules } name = failure := by
  intro first second name failure
  have hFirst : (parse (E := .usual) first).map (firstDecision? ·.rules .hadoop none name) =
      .ok (some failure) := by
    decide +kernel
  have hSecond : (parse (E := .usual) second).map (·.shortName name) =
      .ok (.ok "ann") := by decide +kernel
  obtain ⟨ra, ha, hDecision⟩ := map_eq_ok_iff.mp hFirst
  obtain ⟨rb, hb, hShort⟩ := map_eq_ok_iff.mp hSecond
  obtain ⟨hBoth, hName⟩ := composition ha hb
  refine ⟨ra, rb, ha, hb, hShort, hBoth, ?_⟩
  rw [hName .hadoop none name (.inr nofun), hDecision]
  rfl

end RuleSet

end SignOn
