import Mathlib.Tactic.Common
import SignOn.Kerberos.RuleSet
import SignOn.Proofs.Result
import SignOn.Proofs.Text.Split

/-!
# Taking a rule apart

Each part of a rule that may be left out is taken off the front of a text up to the character at
which it ends, so what was taken and what is left give the text again. The other way round, a part
is found as it was written if what follows cannot be mistaken for the part. So it is for the body of
a rule (`Rule.of_takeBody?`, `Rule.takeBody?_text`), of which a draft has the parts
(`Rule.Draft.text`). A draft becomes the rule that has these parts (`Rule.ofDraft_eq_ok_iff`).
-/

namespace SignOn

variable {E : PatternEngine}

theorem Pattern.ofText?_eq_some_iff {text : String} {p : Pattern E} :
    Pattern.ofText? text = some p ↔ p.text = text := by
  unfold Pattern.ofText?
  split
  · rename_i matcher hCompiles
    rw [Option.some.injEq]
    constructor
    · rintro rfl
      rfl
    · intro h
      exact Pattern.eq_of_text_eq h.symm
  · rename_i hNone
    simp only [reduceCtorEq, false_iff]
    rintro rfl
    rw [p.compiles] at hNone
    cases hNone

namespace Rule

variable {cs rest : List Char}

/-! ## Parts that may be left out -/

theorem takeText?_eq_some_iff {head : String} :
    takeText? head cs = some rest ↔ cs = head.toList ++ rest := by
  unfold takeText?
  split
  · rename_i hHead
    obtain ⟨behind, rfl⟩ := List.isPrefixOf_iff_prefix.mp hHead
    simp
  · rename_i hHead
    simp only [reduceCtorEq, false_iff]
    rintro rfl
    exact hHead (List.isPrefixOf_iff_prefix.mpr (List.prefix_append _ _))

/-- A sign that may be left out. -/
def optional (sign : Char) (present : Bool) : List Char :=
  if present then [sign] else []

theorem eq_of_takeSign {sign : Char} {present : Bool} (h : takeSign sign cs = (present, rest)) :
    cs = optional sign present ++ rest := by
  unfold takeSign at h
  split at h
  · split at h
    · rename_i hSign
      cases h
      rw [hSign]
      rfl
    · cases h
      rfl
  · cases h
    rfl

theorem takeSign_append {sign : Char} (present : Bool) (h : rest.head? ≠ some sign) :
    takeSign sign (optional sign present ++ rest) = (present, rest) := by
  cases present with
  | true => simp [optional, takeSign]
  | false =>
    cases rest with
    | nil => rfl
    | cons c rest =>
      have hNe : c ≠ sign := fun hEq => h (congrArg some hEq)
      simp [optional, takeSign, hNe]

theorem head?_optional_append {sign c : Char} {present : Bool}
    (h : (optional sign present ++ rest).head? = some c) : c = sign ∨ rest.head? = some c := by
  cases present with
  | true => exact .inl (Option.some.inj h).symm
  | false => exact .inr h

/-- What ends a rule: a slash and an `L`, either of which may be left out. -/
def ending (slash lowercase : Bool) : List Char :=
  optional '/' slash ++ optional 'L' lowercase

theorem eq_of_takeLowercase {lowercase : Bool} (h : takeLowercase cs = (lowercase, rest)) :
    ∃ slash, cs = ending slash lowercase ++ rest := by
  refine ⟨(takeSign '/' cs).1, ?_⟩
  rw [ending, List.append_assoc, ← eq_of_takeSign h]
  exact eq_of_takeSign rfl

theorem takeLowercase_append (slash lowercase : Bool) (hSlash : rest.head? ≠ some '/')
    (hLetter : rest.head? ≠ some 'L') :
    takeLowercase (ending slash lowercase ++ rest) = (lowercase, rest) := by
  have hBehind : (optional 'L' lowercase ++ rest).head? ≠ some '/' := by
    intro h
    rcases head?_optional_append h with h | h
    · cases h
    · exact hSlash h
  rw [takeLowercase, ending, List.append_assoc, takeSign_append slash hBehind]
  exact takeSign_append lowercase hLetter

namespace Draft

/-- The characters of a matcher, if there is one. -/
def matcherText : Option (List Char) → List Char
  | none => []
  | some pattern => '(' :: (pattern ++ [')'])

/-- The characters of a substitution, if there is one. -/
def substitutionText : Option (List Char × List Char × Bool) → List Char
  | none => []
  | some (pattern, replacement, everywhere) =>
    's' :: '/' :: (pattern ++ '/' :: (replacement ++ '/' :: optional 'g' everywhere))

/-- The characters of the body of a rule. -/
def text (d : Draft) : List Char :=
  "RULE:[".toList ++ (d.components ++ ':' :: (d.template ++ ']' ::
    (matcherText d.matcher ++ substitutionText d.substitution)))

/-- The parts of the body in front of what follows it. -/
theorem text_append (d : Draft) (rest : List Char) :
    d.text ++ rest = "RULE:[".toList ++ (d.components ++ ':' :: (d.template ++ ']' ::
      (matcherText d.matcher ++ (substitutionText d.substitution ++ rest)))) :=
  (List.append_assoc ..).trans (congrArg _ (by simp))

/-- No part holds the character at which it would end. -/
structure WellFormed (d : Draft) : Prop where
  components : ∀ c ∈ d.components, Text.isDigitChar c = true
  template : ']' ∉ d.template
  matcher : ∀ pattern, d.matcher = some pattern → ')' ∉ pattern
  substitution : ∀ pattern replacement everywhere,
    d.substitution = some (pattern, replacement, everywhere) → '/' ∉ pattern ∧ '/' ∉ replacement

end Draft

theorem of_takeMatcher {matcher : Option (List Char)} (h : takeMatcher cs = (matcher, rest)) :
    cs = Draft.matcherText matcher ++ rest ∧ ∀ pattern, matcher = some pattern → ')' ∉ pattern := by
  unfold takeMatcher at h
  split at h
  · split at h
    · rename_i hCut
      obtain ⟨hFree, rfl⟩ := Text.cut?_eq_some_iff.mp hCut
      cases h
      refine ⟨by simp [Draft.matcherText], ?_⟩
      rintro _ ⟨⟩
      exact hFree
    · cases h
      exact ⟨rfl, nofun⟩
  · cases h
    exact ⟨rfl, nofun⟩

theorem takeMatcher_append {matcher : Option (List Char)}
    (hFree : ∀ pattern, matcher = some pattern → ')' ∉ pattern) (hRest : rest.head? ≠ some '(') :
    takeMatcher (Draft.matcherText matcher ++ rest) = (matcher, rest) := by
  cases matcher with
  | some pattern =>
    have hCut := Text.cut?_append (hFree pattern rfl) rest
    simp [Draft.matcherText, takeMatcher, hCut]
  | none =>
    rw [Draft.matcherText, List.nil_append]
    unfold takeMatcher
    split
    · exact absurd rfl hRest
    · rfl

theorem of_takeSubstitution {substitution : Option (List Char × List Char × Bool)}
    (h : takeSubstitution cs = (substitution, rest)) :
    cs = Draft.substitutionText substitution ++ rest ∧
      ∀ pattern replacement everywhere,
        substitution = some (pattern, replacement, everywhere) →
          '/' ∉ pattern ∧ '/' ∉ replacement := by
  unfold takeSubstitution at h
  split at h
  · split at h
    · rename_i hPattern
      obtain ⟨hFree, rfl⟩ := Text.cut?_eq_some_iff.mp hPattern
      split at h
      · rename_i behind hReplacement
        obtain ⟨hFree', rfl⟩ := Text.cut?_eq_some_iff.mp hReplacement
        rcases hSign : takeSign 'g' behind with ⟨everywhere, behind'⟩
        simp only [hSign] at h
        cases h
        rw [eq_of_takeSign hSign]
        refine ⟨by simp [Draft.substitutionText], ?_⟩
        rintro _ _ _ ⟨⟩
        exact ⟨hFree, hFree'⟩
      · cases h
        exact ⟨rfl, nofun⟩
    · cases h
      exact ⟨rfl, nofun⟩
  · cases h
    exact ⟨rfl, nofun⟩

theorem takeSubstitution_append {substitution : Option (List Char × List Char × Bool)}
    (hFree : ∀ pattern replacement everywhere,
      substitution = some (pattern, replacement, everywhere) → '/' ∉ pattern ∧ '/' ∉ replacement)
    (hRest : rest.head? ≠ some 's') (hSign : rest.head? ≠ some 'g') :
    takeSubstitution (Draft.substitutionText substitution ++ rest) = (substitution, rest) := by
  cases substitution with
  | some parts =>
    obtain ⟨pattern, replacement, everywhere⟩ := parts
    obtain ⟨hPattern, hReplacement⟩ := hFree pattern replacement everywhere rfl
    simp [Draft.substitutionText, takeSubstitution, Text.cut?_append hPattern,
      Text.cut?_append hReplacement, takeSign_append everywhere hSign]
  | none =>
    rw [Draft.substitutionText, List.nil_append]
    unfold takeSubstitution
    split
    · exact absurd rfl hRest
    · rfl

/-! ## The body of a rule -/

theorem of_takeBody? {draft? : Option Draft} (h : takeBody? cs = some (draft?, rest)) :
    draft? = none ∧ cs = "DEFAULT".toList ++ rest ∨
      ∃ d, draft? = some d ∧ d.WellFormed ∧ cs = d.text ++ rest := by
  unfold takeBody? at h
  split at h
  · rename_i hDefault
    cases h
    exact .inl ⟨rfl, takeText?_eq_some_iff.mp hDefault⟩
  · obtain ⟨body, hHead, hBody⟩ := Option.bind_eq_some_iff.mp h
    obtain ⟨parts, hColon, hParts⟩ := Option.bind_eq_some_iff.mp hBody
    obtain ⟨⟨template, behind⟩, hTemplate, hDraft⟩ := Option.bind_eq_some_iff.mp hParts
    obtain ⟨hFree, rfl⟩ := Text.cut?_eq_some_iff.mp hTemplate
    rw [takeText?_eq_some_iff] at hHead hColon
    obtain ⟨hDigits, hComponents, -⟩ := Text.takeWhile_and_dropWhile_iff.mp ⟨rfl, hColon⟩
    rcases hMatcher : takeMatcher behind with ⟨matcher, behind'⟩
    rcases hSubstitution : takeSubstitution behind' with ⟨substitution, behind''⟩
    simp only [hMatcher, hSubstitution] at hDraft
    cases hDraft
    obtain ⟨rfl, hMatcherFree⟩ := of_takeMatcher hMatcher
    obtain ⟨rfl, hSubstitutionFree⟩ := of_takeSubstitution hSubstitution
    refine .inr ⟨_, rfl, ⟨hComponents, hFree, hMatcherFree, hSubstitutionFree⟩, ?_⟩
    rw [hHead, Draft.text_append]
    exact congrArg _ hDigits

theorem takeBody?_default : takeBody? ("DEFAULT".toList ++ rest) = some (none, rest) := by
  rw [takeBody?, takeText?_eq_some_iff.mpr rfl]

theorem takeBody?_text {d : Draft} (hWell : d.WellFormed)
    (hRest : ∀ c ∈ ['(', 's', 'g'], rest.head? ≠ some c) :
    takeBody? (d.text ++ rest) = some (some d, rest) := by
  obtain ⟨components, template, matcher, substitution⟩ := d
  obtain ⟨hComponents, hTemplate, hMatcher, hSubstitution⟩ := hWell
  let behind := Draft.matcherText matcher ++ (Draft.substitutionText substitution ++ rest)
  let body := components ++ ':' :: (template ++ ']' :: behind)
  have hText : Draft.text ⟨components, template, matcher, substitution⟩ ++ rest =
      "RULE:[".toList ++ body := Draft.text_append _ rest
  have hNotDefault : takeText? "DEFAULT" ("RULE:[".toList ++ body) = none := rfl
  obtain ⟨hDigits, hColon⟩ : body.takeWhile Text.isDigitChar = components ∧
      body.dropWhile Text.isDigitChar = ":".toList ++ (template ++ ']' :: behind) := by
    refine Text.takeWhile_and_dropWhile_iff.mpr ⟨rfl, hComponents, ?_⟩
    rintro c ⟨⟩
    decide
  -- Without a substitution, what follows the rule is next to its matcher.
  have hBehind : (Draft.substitutionText substitution ++ rest).head? ≠ some '(' := by
    cases substitution with
    | none => exact hRest '(' (by decide)
    | some parts => simp [Draft.substitutionText]
  have hCut : Text.cut? ']' (template ++ ']' :: behind) = some (template, behind) :=
    Text.cut?_append hTemplate behind
  have hTakeMatcher : takeMatcher behind =
      (matcher, Draft.substitutionText substitution ++ rest) := takeMatcher_append hMatcher hBehind
  have hTakeSubstitution : takeSubstitution (Draft.substitutionText substitution ++ rest) =
      (substitution, rest) :=
    takeSubstitution_append hSubstitution (hRest 's' (by decide)) (hRest 'g' (by decide))
  rw [hText, takeBody?, hNotDefault, takeText?_eq_some_iff.mpr rfl]
  simp only [Option.bind_eq_bind, Option.bind_some, hDigits, takeText?_eq_some_iff.mpr hColon, hCut,
    hTakeMatcher, hTakeSubstitution]

/-! ## Rules and how they are spelled -/

/-- A pattern that is to match a whole text, as it is made of an inner one. -/
def IsWhole (p : Pattern E) : Prop :=
  p.text = wholeOpening ++ innerPattern p ++ wholeClosing

theorem innerPattern_eq {p : Pattern E} {inner : String}
    (h : p.text = wholeOpening ++ inner ++ wholeClosing) : innerPattern p = inner := by
  have hLength : (wholeOpening.toList ++ (inner.toList ++ wholeClosing.toList)).length -
      wholeOpening.toList.length - wholeClosing.toList.length = inner.toList.length := by
    rw [List.length_append, List.length_append]
    omega
  rw [innerPattern, h, String.toList_append, String.toList_append, List.append_assoc,
    ← String.length_toList, ← String.length_toList, hLength, List.drop_left, List.take_left,
    String.ofList_toList]

theorem readPattern_eq_ok_iff {text : String} {p : Pattern E} :
    readPattern text = .ok p ↔ p.text = text := by
  rw [← Pattern.ofText?_eq_some_iff, readPattern]
  cases Pattern.ofText? (E := E) text <;> simp [misconfigured]

end Rule

/-- The parts of a rule as they are written, the number of parts of a name in these digits. -/
def Mapping.draft (m : Mapping E) (digits : List Char) : Rule.Draft where
  components := digits
  template := m.template.toList
  matcher := m.matcher.map fun p => (Rule.innerPattern p).toList
  substitution := m.substitution.map fun s =>
    (s.pattern.text.toList, s.replacement.toList, s.everywhere)

namespace Rule

variable {cs rest : List Char} {rule : Rule E} {m : Mapping E}

theorem readComponents_eq_ok_iff {source : String} {digits : List Char} {n : Nat} :
    readComponents source digits = .ok n ↔ Text.Decimal.word64? digits = some n := by
  rw [readComponents]
  cases Text.Decimal.word64? digits <;> simp [misconfigured]

theorem readMatcher_eq_ok_iff {written : Option (List Char)} {matcher : Option (Pattern E)} :
    readMatcher written = .ok matcher ↔
      written = matcher.map (fun p => (innerPattern p).toList) ∧
        ∀ p, matcher = some p → IsWhole p := by
  constructor
  · intro h
    cases written with
    | none =>
      cases h
      exact ⟨rfl, nofun⟩
    | some pattern =>
      obtain ⟨p, hRead, hMade⟩ := bind_eq_ok_iff.mp h
      cases hMade
      rw [readPattern_eq_ok_iff] at hRead
      have hInner := innerPattern_eq hRead
      refine ⟨by simp [hInner], ?_⟩
      rintro _ ⟨⟩
      rw [IsWhole, hInner, hRead]
  · rintro ⟨rfl, hWhole⟩
    cases matcher with
    | none => rfl
    | some p =>
      refine bind_eq_ok_iff.mpr ⟨p, readPattern_eq_ok_iff.mpr ?_, rfl⟩
      rw [String.ofList_toList]
      exact hWhole p rfl

theorem readSubstitution_eq_ok_iff {written : Option (List Char × List Char × Bool)}
    {substitution : Option (Substitution E)} :
    readSubstitution written = .ok substitution ↔
      written = substitution.map fun s =>
        (s.pattern.text.toList, s.replacement.toList, s.everywhere) := by
  constructor
  · intro h
    cases written with
    | none =>
      cases h
      rfl
    | some parts =>
      obtain ⟨p, hRead, hMade⟩ := bind_eq_ok_iff.mp h
      cases hMade
      simp [readPattern_eq_ok_iff.mp hRead]
  · rintro rfl
    cases substitution with
    | none => rfl
    | some s =>
      refine bind_eq_ok_iff.mpr ⟨s.pattern, readPattern_eq_ok_iff.mpr ?_, ?_⟩
      · rw [String.ofList_toList]
      · rw [String.ofList_toList]

/-- A draft becomes the rule of which it has the parts. -/
theorem ofDraft_eq_ok_iff {source : String} {d : Draft} {lowercase : Bool} :
    ofDraft source d lowercase = .ok rule ↔
      ∃ m, rule = .mapping m ∧ m.lowercase = lowercase ∧ d = m.draft d.components ∧
        Text.Decimal.word64? d.components = some m.components ∧
        ∀ p, m.matcher = some p → IsWhole p := by
  obtain ⟨digits, template, matcher, substitution⟩ := d
  simp only [ofDraft, bind_eq_ok_iff, readComponents_eq_ok_iff, readMatcher_eq_ok_iff,
    readSubstitution_eq_ok_iff]
  constructor
  · rintro ⟨n, hNumber, p?, ⟨hMatcher, hWhole⟩, s?, hSubstitution, hMade⟩
    cases hMade
    refine ⟨_, rfl, rfl, ?_, hNumber, hWhole⟩
    rw [Mapping.draft, hMatcher, hSubstitution, String.toList_ofList]
  · rintro ⟨m, rfl, rfl, hDraft, hNumber, hWhole⟩
    cases hDraft
    refine ⟨m.components, hNumber, m.matcher, ⟨rfl, hWhole⟩, m.substitution, rfl, ?_⟩
    rw [String.ofList_toList]

end Rule

end SignOn
