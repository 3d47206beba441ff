import Mathlib.Tactic.Common
import SignOn.Proofs.Kerberos.RuleDraft
import SignOn.Proofs.Text.Blank
import SignOn.Proofs.Text.Decimal

/-!
# The grammar of rules

A rule is written in more than one way: zeros may stand in front of the number of parts, and a slash
that ends it, with or without an `L` behind it, may be left out or added (`Rule.Spelled`). What is
taken off the front of a text is always spelled like that (`Rule.spelled_of_take`). A rule that is
spelled like that is taken as it was meant if what follows cannot be mistaken for another part of it
(`Rule.take_of_spelled`); white space and the beginning of a further rule cannot.

So a text is read as a list of rules exactly if it consists of their spellings, with white space
around them or none (`RuleSet.Spelled`, `RuleSet.parse_eq_ok_iff`).
-/

namespace SignOn

variable {E : PatternEngine}

/-- A rule that can be written: no part holds the character at which it would end, and the matcher
is one for a whole text. -/
structure Mapping.Writable (m : Mapping E) : Prop where
  components : m.components < 2 ^ 64
  template : ']' ∉ m.template.toList
  matcher : ∀ p, m.matcher = some p → Rule.IsWhole p ∧ ')' ∉ (Rule.innerPattern p).toList
  substitution : ∀ s, m.substitution = some s →
    '/' ∉ s.pattern.text.toList ∧ '/' ∉ s.replacement.toList

namespace Rule

variable {cs spelled rest : List Char} {rule : Rule E} {m : Mapping E}

theorem isDigitChar_of_isDigit {c : Char} (h : c.isDigit = true) : Text.isDigitChar c = true := by
  have hRange := Text.Decimal.toNat_of_isDigit h
  refine List.any_eq_true.mpr ⟨(0x30, 0x39), by simp [Text.digitRanges], ?_⟩
  simpa using hRange

theorem head?_ne_plus {digits : List Char} (h : ∀ c ∈ digits, Text.isDigitChar c = true) :
    digits.head? ≠ some '+' := by
  intro hHead
  have hPlus := h '+' (List.mem_of_head? hHead)
  revert hPlus
  decide

theorem wellFormed_draft_iff {digits : List Char} :
    (m.draft digits).WellFormed ∧ Text.Decimal.word64? digits = some m.components ∧
        (∀ p, m.matcher = some p → IsWhole p) ↔
      m.Writable ∧ Text.Decimal.IsRun digits ∧
        Nat.ofDigitChars 10 digits 0 = m.components := by
  constructor
  · rintro ⟨⟨hDigits, hTemplate, hMatcher, hSubstitution⟩, hNumber, hWhole⟩
    obtain ⟨hRun, hValue, hSmall⟩ :=
      (Text.Decimal.word64?_eq_some_iff (head?_ne_plus hDigits)).mp hNumber
    refine ⟨⟨hSmall, hTemplate, ?_, ?_⟩, hRun, hValue.symm⟩
    · intro p hp
      exact ⟨hWhole p hp, hMatcher _ (by simp [Mapping.draft, hp])⟩
    · intro s hs
      exact hSubstitution _ _ s.everywhere (by simp [Mapping.draft, hs])
  · rintro ⟨⟨hSmall, hTemplate, hMatcher, hSubstitution⟩, hRun, hValue⟩
    have hDigits : ∀ c ∈ digits, Text.isDigitChar c = true :=
      fun c hc => isDigitChar_of_isDigit (hRun.2 c hc)
    refine ⟨⟨hDigits, hTemplate, ?_, ?_⟩,
      (Text.Decimal.word64?_eq_some_iff (head?_ne_plus hDigits)).mpr ⟨hRun, hValue.symm, hSmall⟩,
      fun p hp => (hMatcher p hp).1⟩
    · intro pattern hPattern
      obtain ⟨p, hp, rfl⟩ := Option.map_eq_some_iff.mp hPattern
      exact (hMatcher p hp).2
    · intro pattern replacement everywhere hParts
      obtain ⟨s, hs, hEq⟩ := Option.map_eq_some_iff.mp hParts
      cases hEq
      exact hSubstitution s hs

/-- The ways to write a rule. -/
inductive Spelled : List Char → Rule E → Prop
  | default (slash lowercase : Bool) :
      Spelled ("DEFAULT".toList ++ ending slash lowercase) .default
  | mapping {m : Mapping E} {digits : List Char} (slash : Bool) (hWritable : m.Writable)
      (hRun : Text.Decimal.IsRun digits)
      (hNumber : Nat.ofDigitChars 10 digits 0 = m.components) :
      Spelled ((m.draft digits).text ++ ending slash m.lowercase) (.mapping m)

/-- The text does not begin with a character that could go on a rule in front of it. -/
def IsBoundary (cs : List Char) : Prop :=
  ∀ c ∈ ['(', 's', 'g', '/', 'L'], cs.head? ≠ some c

/-- What is taken off the front of a text is the spelling of the rule. -/
theorem spelled_of_take (h : take cs = .ok (rule, rest)) :
    ∃ spelled, Spelled spelled rule ∧ cs = spelled ++ rest := by
  unfold take at h
  split at h
  · cases h
  · rename_i draft? behind hBody
    rcases hEnding : takeLowercase behind with ⟨lowercase, behind'⟩
    obtain ⟨slash, rfl⟩ := eq_of_takeLowercase hEnding
    simp only [hEnding] at h
    obtain ⟨rfl, rfl⟩ | ⟨d, rfl, hWell, rfl⟩ := of_takeBody? hBody
    · cases h
      exact ⟨_, .default slash lowercase, (List.append_assoc ..).symm⟩
    · obtain ⟨rule', hDraft, hMade⟩ := bind_eq_ok_iff.mp h
      cases hMade
      obtain ⟨m, rfl, rfl, hDraft, hNumber, hWhole⟩ := ofDraft_eq_ok_iff.mp hDraft
      rw [hDraft] at hWell ⊢
      obtain ⟨hWritable, hRun, hValue⟩ := wellFormed_draft_iff.mp ⟨hWell, hNumber, hWhole⟩
      exact ⟨_, .mapping slash hWritable hRun hValue, (List.append_assoc ..).symm⟩

/-- In front of a boundary a rule is taken as it was spelled. -/
theorem take_of_spelled (h : Spelled spelled rule) (hRest : IsBoundary rest) :
    take (spelled ++ rest) = .ok (rule, rest) := by
  have hEnding : ∀ slash lowercase,
      takeLowercase (ending slash lowercase ++ rest) = (lowercase, rest) :=
    fun slash lowercase =>
      takeLowercase_append slash lowercase (hRest '/' (by decide)) (hRest 'L' (by decide))
  cases h with
  | default slash lowercase =>
    rw [List.append_assoc]
    unfold take
    simp only [takeBody?_default, hEnding]
  | @mapping m digits slash hWritable hRun hNumber =>
    obtain ⟨hWell, hNumber, hWhole⟩ := wellFormed_draft_iff.mpr ⟨hWritable, hRun, hNumber⟩
    -- Neither sign of the ending begins a matcher or a substitution, or goes on one.
    have hBehind : ∀ c ∈ ['(', 's', 'g'], (ending slash m.lowercase ++ rest).head? ≠ some c := by
      intro c hc hHead
      rw [ending, List.append_assoc] at hHead
      rcases head?_optional_append hHead with rfl | hHead
      · revert hc
        decide
      · rcases head?_optional_append hHead with rfl | hHead
        · revert hc
          decide
        · exact hRest c (by simp at hc ⊢; tauto) hHead
    rw [List.append_assoc]
    unfold take
    simp only [takeBody?_text hWell hBehind, hEnding]
    exact bind_eq_ok_iff.mpr
      ⟨_, ofDraft_eq_ok_iff.mpr ⟨m, rfl, rfl, rfl, hNumber, hWhole⟩, rfl⟩

/-! ## Where a rule begins and ends -/

theorem Spelled.exists_cons (h : Spelled spelled rule) :
    ∃ c behind, spelled = c :: behind ∧ (c = 'D' ∨ c = 'R') := by
  cases h with
  | default slash lowercase => exact ⟨'D', _, rfl, .inl rfl⟩
  | mapping slash _ _ _ => exact ⟨'R', _, rfl, .inr rfl⟩

/-- The last character is not white space. -/
def EndsVisibly (cs : List Char) : Prop :=
  ∃ front c, cs = front ++ [c] ∧ Text.isBlank c = false

theorem EndsVisibly.append {front back : List Char} (h : EndsVisibly front)
    (hBack : back = [] ∨ EndsVisibly back) : EndsVisibly (front ++ back) := by
  rcases hBack with rfl | ⟨back, c, rfl, hc⟩
  · rwa [List.append_nil]
  · exact ⟨front ++ back, c, (List.append_assoc ..).symm, hc⟩

theorem endsVisibly_optional {sign : Char} (h : Text.isBlank sign = false) (present : Bool) :
    optional sign present = [] ∨ EndsVisibly (optional sign present) := by
  cases present with
  | true => exact .inr ⟨[], sign, rfl, h⟩
  | false => exact .inl rfl

theorem EndsVisibly.append_ending (h : EndsVisibly cs) (slash lowercase : Bool) :
    EndsVisibly (cs ++ ending slash lowercase) := by
  rw [ending, ← List.append_assoc]
  exact (h.append (endsVisibly_optional (by decide) slash)).append
    (endsVisibly_optional (by decide) lowercase)

theorem Draft.endsVisibly_text (d : Draft) : EndsVisibly d.text := by
  obtain ⟨digits, template, matcher, substitution⟩ := d
  have hTemplate : EndsVisibly ("RULE:[".toList ++ digits ++ ':' :: template ++ [']']) :=
    ⟨_, ']', rfl, by decide⟩
  have hMatcher : matcherText matcher = [] ∨ EndsVisibly (matcherText matcher) := by
    cases matcher with
    | none => exact .inl rfl
    | some pattern => exact .inr ⟨'(' :: pattern, ')', rfl, by decide⟩
  have hSubstitution :
      substitutionText substitution = [] ∨ EndsVisibly (substitutionText substitution) := by
    match substitution with
    | none => exact .inl rfl
    | some (pattern, replacement, everywhere) =>
      have hSlash : EndsVisibly ('s' :: '/' :: pattern ++ '/' :: replacement ++ ['/']) :=
        ⟨_, '/', rfl, by decide⟩
      right
      simpa [substitutionText] using hSlash.append (endsVisibly_optional (by decide) everywhere)
  rw [← List.append_nil (text _), text_append]
  simpa using (hTemplate.append hMatcher).append hSubstitution

theorem Spelled.endsVisibly (h : Spelled spelled rule) : EndsVisibly spelled := by
  cases h with
  | default slash lowercase =>
    have hDefault : EndsVisibly "DEFAULT".toList := ⟨"DEFAUL".toList, 'T', rfl, by decide⟩
    exact hDefault.append_ending slash lowercase
  | mapping slash _ _ _ => exact (Draft.endsVisibly_text _).append_ending slash _

end Rule

/-! ## Sets of rules -/

namespace RuleSet

variable {cs blanks : List Char} {rules : List (Rule E)}

/-- The ways to write rules one behind the other, with or without white space around them. -/
inductive Spelled : List Char → List (Rule E) → Prop
  | nil {blanks : List Char} (hBlanks : ∀ c ∈ blanks, Text.isBlank c = true) : Spelled blanks []
  | cons {blanks spelled rest : List Char} {rule : Rule E} {rules : List (Rule E)}
      (hBlanks : ∀ c ∈ blanks, Text.isBlank c = true) (hRule : Rule.Spelled spelled rule)
      (hRest : Spelled rest rules) : Spelled (blanks ++ (spelled ++ rest)) (rule :: rules)

namespace Spelled

theorem rule_append {spelled rest : List Char} {rule : Rule E} (hRule : Rule.Spelled spelled rule)
    (hRest : Spelled rest rules) : Spelled (spelled ++ rest) (rule :: rules) :=
  @cons E [] spelled rest rule rules nofun hRule hRest

theorem blanks_append (hBlanks : ∀ c ∈ blanks, Text.isBlank c = true) (h : Spelled cs rules) :
    Spelled (blanks ++ cs) rules := by
  cases h with
  | nil hMore => exact .nil (List.forall_mem_append.mpr ⟨hBlanks, hMore⟩)
  | cons hMore hRule hRest =>
    rw [← List.append_assoc]
    exact .cons (List.forall_mem_append.mpr ⟨hBlanks, hMore⟩) hRule hRest

theorem line_append (h : Spelled cs rules) : Spelled ('\n' :: cs) rules :=
  h.blanks_append (List.forall_mem_singleton.mpr (by decide))

/-- Rules behind rules. -/
theorem append {cs' : List Char} {rules' : List (Rule E)} (h : Spelled cs rules)
    (h' : Spelled cs' rules') : Spelled (cs ++ cs') (rules ++ rules') := by
  induction h with
  | nil hBlanks => exact h'.blanks_append hBlanks
  | cons hBlanks hRule hRest ih =>
    rw [List.append_assoc, List.append_assoc]
    exact .cons hBlanks hRule ih

/-- White space at the end may be left out. -/
theorem of_append_blanks (h : Spelled (cs ++ blanks) rules)
    (hBlanks : ∀ c ∈ blanks, Text.isBlank c = true) : Spelled cs rules := by
  generalize hText : cs ++ blanks = text at h
  induction h generalizing cs with
  | nil hAll =>
    subst hText
    exact .nil (List.forall_mem_append.mp hAll).1
  | @cons front spelled rest rule rules hFront hRule hRest ih =>
    rw [← List.append_assoc, List.append_eq_append_iff] at hText
    obtain ⟨back, hSpelled, hBack⟩ | ⟨front', rfl, hRest'⟩ := hText
    · -- The white space cannot reach back into a rule, whose last character is visible.
      rcases List.eq_nil_or_concat back with rfl | ⟨back, c, rfl⟩
      · rw [List.append_nil] at hSpelled
        rw [← hSpelled, ← List.append_nil (front ++ spelled), List.append_assoc]
        exact .cons hFront hRule (ih hBack)
      · obtain ⟨_, last, rfl, hLast⟩ := hRule.endsVisibly
        rw [← List.append_assoc, List.concat_eq_append, ← List.append_assoc] at hSpelled
        obtain ⟨-, hEq⟩ := List.append_inj' hSpelled rfl
        cases hEq
        rw [hBlanks c (by simp [hBack])] at hLast
        cases hLast
    · rw [List.append_assoc]
      exact .cons hFront hRule (ih hRest'.symm)

theorem head?_cases {c : Char} (h : Spelled cs rules) (hHead : cs.head? = some c) :
    Text.isBlank c = true ∨ c = 'D' ∨ c = 'R' := by
  cases h with
  | nil hBlanks => exact .inl (hBlanks c (List.mem_of_head? hHead))
  | @cons blanks spelled rest rule rules hBlanks hRule hRest =>
    cases blanks with
    | nil =>
      obtain ⟨c', behind, rfl, hFirst⟩ := hRule.exists_cons
      cases hHead
      exact .inr hFirst
    | cons blank blanks =>
      cases hHead
      exact .inl (hBlanks c (List.mem_cons_self ..))

/-- Further rules do not go on the rule in front of them. -/
theorem isBoundary (h : Spelled cs rules) : Rule.IsBoundary cs := by
  intro c hc hHead
  have hFirst := h.head?_cases hHead
  simp only [List.mem_cons, List.not_mem_nil, or_false] at hc
  obtain rfl | rfl | rfl | rfl | rfl := hc <;> exact absurd hFirst (by decide)

end Spelled

/-- Every rule uses up characters, so the rounds suffice. -/
theorem rulesIn_of_spelled (h : Spelled cs rules) {rounds : Nat}
    (hRounds : (cs.dropWhile Text.isBlank).length ≤ rounds) :
    rulesIn rounds (cs.dropWhile Text.isBlank) = .ok rules := by
  -- The reader drops white space behind a rule, not in front of it: hence the text without it.
  induction h generalizing rounds with
  | @nil blanks hBlanks =>
    obtain ⟨-, hNone⟩ := Text.takeWhile_and_dropWhile_iff.mpr
      ⟨(List.append_nil blanks).symm, hBlanks, nofun⟩
    rw [hNone]
    cases rounds <;> rfl
  | @cons blanks spelled rest rule rules hBlanks hRule hRest ih =>
    have hTake := Rule.take_of_spelled hRule hRest.isBoundary
    obtain ⟨c, behind, rfl, hFirst⟩ := hRule.exists_cons
    have hVisible : Text.isBlank c = false := by
      rcases hFirst with rfl | rfl <;> decide
    have hText : (blanks ++ (c :: behind ++ rest)).dropWhile Text.isBlank =
        c :: (behind ++ rest) := by
      rw [List.dropWhile_append_of_pos hBlanks]
      exact List.dropWhile_cons_of_neg (by simp [hVisible])
    rw [hText] at hRounds ⊢
    cases rounds with
    | zero => simp at hRounds
    | succ rounds =>
      have hShorter := (List.dropWhile_suffix Text.isBlank (l := rest)).length_le
      rw [List.length_cons, List.length_append] at hRounds
      have hBehind : rulesIn rounds _ = _ := ih (by omega)
      exact bind_eq_ok_iff.mpr ⟨_, hTake, bind_eq_ok_iff.mpr ⟨_, hBehind, rfl⟩⟩

theorem spelled_of_rulesIn {rounds : Nat} (h : rulesIn rounds cs = .ok rules)
    (hRounds : cs.length ≤ rounds) : Spelled cs rules := by
  induction rounds generalizing cs rules with
  | zero =>
    cases cs with
    | nil =>
      cases h
      exact .nil nofun
    | cons c cs => simp at hRounds
  | succ rounds ih =>
    cases cs with
    | nil =>
      cases h
      exact .nil nofun
    | cons c cs =>
      obtain ⟨⟨rule, rest⟩, hTake, hBehind⟩ := bind_eq_ok_iff.mp h
      obtain ⟨rules', hRules, hMade⟩ := bind_eq_ok_iff.mp hBehind
      cases hMade
      obtain ⟨spelled, hSpelled, hText⟩ := Rule.spelled_of_take hTake
      have hFewer : (rest.dropWhile Text.isBlank).length ≤ rounds := by
        -- A rule has at least one character, which pays for the round.
        obtain ⟨first, behind, rfl, -⟩ := hSpelled.exists_cons
        have hLength := congrArg List.length hText
        have hShorter := (List.dropWhile_suffix Text.isBlank (l := rest)).length_le
        simp only [List.length_cons, List.length_append] at hLength hRounds
        omega
      have hRest : Spelled rest rules' := by
        have hAll : ∀ c ∈ rest.takeWhile Text.isBlank, Text.isBlank c = true :=
          List.all_eq_true.mp List.all_takeWhile
        have hFront := (ih hRules hFewer).blanks_append hAll
        rwa [List.takeWhile_append_dropWhile] at hFront
      rw [hText]
      exact .rule_append hSpelled hRest

/-- A text is read as a set of rules exactly if it consists of their spellings. -/
theorem parse_eq_ok_iff {s : String} {r : RuleSet E} :
    parse s = .ok r ↔ ∃ rules, r = { rules } ∧ Spelled s.toList rules := by
  obtain ⟨front, back, hText, hFront, hBack⟩ := Text.exists_stripBy Text.isBlank s.toList
  have hCore := Text.dropWhile_stripBy (p := Text.isBlank) s.toList
  constructor
  · intro h
    obtain ⟨rules, hRules, hMade⟩ := bind_eq_ok_iff.mp h
    cases hMade
    refine ⟨rules, rfl, ?_⟩
    have hBehind := (spelled_of_rulesIn hRules (Nat.le_refl _)).append (.nil hBack)
    rw [hText, ← List.append_nil rules]
    exact hBehind.blanks_append hFront
  · rintro ⟨rules, rfl, h⟩
    rw [hText, ← List.append_assoc] at h
    have hRead := rulesIn_of_spelled (h.of_append_blanks hBack) (Nat.le_refl _)
    rw [List.dropWhile_append_of_pos hFront, hCore] at hRead
    exact bind_eq_ok_iff.mpr ⟨rules, hRead, rfl⟩

end RuleSet

end SignOn
