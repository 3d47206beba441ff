import SignOn.Proofs.Kerberos.RuleGrammar

/-!
# Rules are read again from their text

The text of a rule is one of its spellings, with no needless zero and a slash only where a letter
follows (`Rule.Spelled.text`); a line for each rule spells a set (`RuleSet.Spelled.text`). So what
was read from any text is read once more, rule for rule, from its own text
(`RuleSet.printing_faithful`).
-/

namespace SignOn

variable {E : PatternEngine}

namespace Rule

theorem text_default_toList :
    (default : Rule E).text.toList = "DEFAULT".toList ++ ending false false := by
  rw [text]
  decide

theorem text_mapping_toList (m : Mapping E) :
    (mapping m).text.toList =
      (m.draft (Text.Decimal.printNat m.components)).text ++ ending m.lowercase m.lowercase := by
  obtain ⟨components, template, matcher, substitution, lowercase⟩ := m
  have hEnding : (if lowercase then "/L" else "").toList = ending lowercase lowercase := by
    cases lowercase <;> rfl
  have hMatcher : ((matcher.map fun p => "(" ++ innerPattern p ++ ")").getD "").toList =
      Draft.matcherText (matcher.map fun p => (innerPattern p).toList) := by
    cases matcher <;> simp [Draft.matcherText]
  have hSubstitution : ((substitution.map substitutionText).getD "").toList =
      Draft.substitutionText (substitution.map fun s =>
        (s.pattern.text.toList, s.replacement.toList, s.everywhere)) := by
    cases substitution with
    | none => rfl
    | some s =>
      obtain ⟨pattern, replacement, everywhere⟩ := s
      cases everywhere <;> simp [substitutionText, Draft.substitutionText, optional]
  rw [Draft.text_append, text]
  simp only [String.toList_append, hEnding, hMatcher, hSubstitution, String.toList_ofList,
    List.append_assoc, Mapping.draft]
  rfl

/-- The text of a rule that can be written is one of the ways to write it. -/
theorem Spelled.text {spelled : List Char} {rule : Rule E} (h : Spelled spelled rule) :
    Spelled rule.text.toList rule := by
  cases h with
  | default slash lowercase =>
    rw [text_default_toList]
    exact .default false false
  | @mapping m digits slash hWritable hRun hNumber =>
    rw [text_mapping_toList]
    exact .mapping m.lowercase hWritable (Text.Decimal.isRun_printNat _)
      (Text.Decimal.ofDigitChars_printNat _)

end Rule

namespace RuleSet

/-- One rule a line is one of the ways to write rules. -/
theorem Spelled.text {cs : List Char} {rules : List (Rule E)} (h : Spelled cs rules) :
    Spelled ("\n".intercalate (rules.map Rule.text)).toList rules := by
  induction h with
  | nil _ => exact .nil nofun
  | @cons blanks spelled rest rule rules _ hRule _ ih =>
    cases rules with
    | nil =>
      have hAlone : Spelled (rule.text.toList ++ []) [rule] := .rule_append hRule.text (.nil nofun)
      simpa using hAlone
    | cons next rules => simpa using Spelled.rule_append hRule.text ih.line_append

/-- **Rules survive being written.** The text of the rules that were read from any text is read
again, as the same rules; so it is whatever the mechanism and the default realm are, every name has
the same short name under both, and written again they have the same text. No other rules that can
be read have this text. -/
theorem printing_faithful {t : String} {r : RuleSet E} (h : parse t = .ok r) (mechanism : Mechanism)
    (defaultRealm : Option String) :
    let used : RuleSet E := { r with mechanism, defaultRealm }
    (∃ r', parse used.text = .ok r' ∧ r'.rules = used.rules ∧
      ({ r' with mechanism, defaultRealm } : RuleSet E).text = used.text ∧
      ∀ name, ({ r' with mechanism, defaultRealm } : RuleSet E).shortName name =
        used.shortName name) ∧
    ∀ t' r', parse t' = .ok r' → r'.text = used.text → r'.rules = used.rules := by
  intro used
  have hAgain : ∀ {t} {r : RuleSet E}, parse t = .ok r → parse r.text = .ok r := by
    intro t r h
    obtain ⟨rules, rfl, hSpelled⟩ := parse_eq_ok_iff.mp h
    exact parse_eq_ok_iff.mpr ⟨rules, rfl, hSpelled.text⟩
  refine ⟨⟨r, hAgain h, rfl, rfl, fun _ => rfl⟩, ?_⟩
  intro t' r' h' hText
  have hSame : parse used.text = .ok r' := hText ▸ hAgain h'
  rw [show used.text = r.text from rfl, hAgain h] at hSame
  cases hSame
  rfl

/-- Zeros, a missing slash, a needless one and several blanks are not in the text that is written,
and the text that is written is read as the same rules. -/
theorem printing_faithful_untidy :
    let untidy := "RULE:[002:$1@$0](HTTP@.*)s/@.*//gL   DEFAULT/ "
    let tidy := "RULE:[2:$1@$0](HTTP@.*)s/@.*//g/L\nDEFAULT"
    ∃ r : RuleSet .usual, parse untidy = .ok r ∧ r.text = tidy ∧
      ∃ r', parse tidy = .ok r' ∧ r'.rules = r.rules := by
  intro untidy tidy
  have hText : (parse (E := .usual) untidy).map text = .ok tidy := by decide +kernel
  obtain ⟨r, hParse, hTidy⟩ := map_eq_ok_iff.mp hText
  obtain ⟨⟨r', hAgain, hRules, -⟩, -⟩ := printing_faithful hParse .hadoop none
  exact ⟨r, hParse, hTidy, r', hTidy ▸ hAgain, hRules⟩

end RuleSet

end SignOn
