import SignOn.Endpoint.Scheme
import SignOn.Proofs.Text.Blank

/-!
# Credentials for a scheme

Credentials are for a scheme exactly if, white space at the start left aside, they begin with its
name in any letter case; what they are is the rest without the white space around it
(`Scheme.behind?_eq_some_iff`). Nothing has to stand between the name and the rest.

No name of a scheme is the beginning of another one. So credentials are for one scheme at most
(`Scheme.Introduces.unique`), and a text names one at most (`Scheme.IsNamed.unique`).
-/

namespace SignOn.Scheme

/-- The credentials consist of the name of the scheme, in any letter case and perhaps behind white
space, and of a rest that is this text without the white space around it. -/
def Introduces (s : Scheme) (credentials rest : String) : Prop :=
  ∃ front word back : String, credentials = front ++ word ++ back ∧
    (∀ c ∈ front.toList, Text.isBlank c = true) ∧ Text.sameText word s.name = true ∧
    rest = Text.trim back

variable {s : Scheme}

theorem trim_name (s : Scheme) : Text.trim s.name = s.name := by
  cases s <;> decide

/-- No character of the name in any letter case is white space. -/
theorem isBlank_of_sameText {word : List Char}
    (h : word.map Char.toLower = s.name.toList.map Char.toLower) :
    ∀ c ∈ word, Text.isBlank c = false := by
  have hName : (s.name.toList.map Char.toLower).all (fun c => !Text.isBlank c) = true := by
    cases s <;> decide
  rw [List.all_eq_true] at hName
  intro c hc
  cases hBlank : Text.isBlank c with
  | false => rfl
  | true =>
    have hMem : c ∈ s.name.toList.map Char.toLower := by
      rw [← h, List.mem_map]
      exact ⟨c, hc, Text.toLower_of_isBlank hBlank⟩
    have hVisible := hName c hMem
    rw [hBlank] at hVisible
    cases hVisible

theorem ne_nil_of_sameText {word : List Char}
    (h : word.map Char.toLower = s.name.toList.map Char.toLower) : word ≠ [] := by
  rintro rfl
  cases s <;> simp [name] at h

/-- Credentials that do not begin with white space name the scheme exactly if they begin with its
name. -/
theorem matches?_iff {cs : List Char} (hFront : cs.dropWhile Text.isBlank = cs) :
    s.matches? (String.ofList cs) = true ↔
      ∃ word back, cs = word ++ back ∧
        word.map Char.toLower = s.name.toList.map Char.toLower := by
  rw [matches?, isNamedIn, trim_name, Text.beginsWithText, Text.trim, String.toList_ofList,
    String.toList_ofList, List.isPrefixOf_iff_prefix, List.prefix_map_iff]
  constructor
  · rintro ⟨word, hWord, hName⟩
    have hStart := hWord.trans (Text.stripBy_isPrefix Text.isBlank cs)
    rw [hFront] at hStart
    obtain ⟨back, hBack⟩ := hStart
    exact ⟨word, back, hBack.symm, hName.symm⟩
  · rintro ⟨word, back, rfl, hName⟩
    have hStays :=
      Text.isPrefix_stripBy (isBlank_of_sameText hName) (ne_nil_of_sameText hName) back
    exact ⟨word, hStays, hName.symm⟩

theorem behind?_eq_some_iff {credentials rest : String} :
    s.behind? credentials = some rest ↔ s.Introduces credentials rest := by
  have hFront := Text.dropWhile_dropWhile (p := Text.isBlank) credentials.toList
  have hBehind : s.behind? credentials = some rest ↔
      s.matches? (String.ofList (credentials.toList.dropWhile Text.isBlank)) = true ∧
        Text.trim (String.ofList
          ((credentials.toList.dropWhile Text.isBlank).drop s.name.toList.length)) = rest := by
    rw [behind?, Text.trimStart, String.toList_ofList]
    generalize s.matches? _ = named
    cases named <;> simp
  have hLength : ∀ word : List Char,
      word.map Char.toLower = s.name.toList.map Char.toLower →
        s.name.toList.length = word.length := by
    intro word hName
    have := congrArg List.length hName
    rw [List.length_map, List.length_map] at this
    exact this.symm
  rw [hBehind, matches?_iff hFront]
  constructor
  · rintro ⟨⟨word, back, hText, hName⟩, rfl⟩
    refine ⟨String.ofList (credentials.toList.takeWhile Text.isBlank), String.ofList word,
      String.ofList back, ?_, ?_, ?_, ?_⟩
    · rw [← String.toList_inj, String.toList_append, String.toList_append, String.toList_ofList,
        String.toList_ofList, String.toList_ofList, List.append_assoc, ← hText,
        List.takeWhile_append_dropWhile]
    · rw [String.toList_ofList]
      exact List.all_eq_true.mp List.all_takeWhile
    · rw [Text.sameText_iff, String.toList_ofList]
      exact hName
    · rw [hText, hLength word hName, List.drop_left]
  · rintro ⟨front, word, back, rfl, hBlank, hSame, rfl⟩
    have hName := Text.sameText_iff.mp hSame
    have hText : (front ++ word ++ back).toList.dropWhile Text.isBlank =
        word.toList ++ back.toList := by
      rw [String.toList_append, String.toList_append, List.append_assoc,
        List.dropWhile_append_of_pos hBlank, Text.dropWhile_append_of_forall_not
          (isBlank_of_sameText hName) (ne_nil_of_sameText hName)]
    rw [hText]
    refine ⟨⟨word.toList, back.toList, rfl, hName⟩, ?_⟩
    rw [hLength word.toList hName, List.drop_left, String.ofList_toList]

/-! ## One scheme at most -/

/-- White space at the start does not count for the name either. -/
theorem matches?_trimStart (s : Scheme) (credentials : String) :
    s.matches? (Text.trimStart credentials) = s.matches? credentials := by
  have hTrim : Text.trim (Text.trimStart credentials) = Text.trim credentials := by
    rw [Text.trim, Text.trim, Text.trimStart, String.toList_ofList, Text.stripBy, Text.stripBy,
      Text.dropWhile_dropWhile]
  rw [matches?, matches?, isNamedIn, isNamedIn, hTrim]

/-- Whoever finds the name of a scheme in credentials can also take it off. -/
theorem matches?_iff_introduces {credentials : String} :
    s.matches? credentials = true ↔ ∃ rest, s.Introduces credentials rest := by
  simp only [← behind?_eq_some_iff]
  rw [← matches?_trimStart, behind?]
  cases s.matches? (Text.trimStart credentials) <;> simp

/-- No name is the beginning of another one, whatever the case of letters. -/
theorem eq_of_name_isPrefix {t : Scheme}
    (h : s.name.toList.map Char.toLower <+: t.name.toList.map Char.toLower) : s = t := by
  cases s <;> cases t <;> first | rfl | exact absurd h (by decide)

/-- Credentials are for one scheme at most. -/
theorem Introduces.unique {t : Scheme} {credentials rest other : String}
    (h : s.Introduces credentials rest) (h' : t.Introduces credentials other) : s = t := by
  have hNames : ∀ {u : Scheme} {rest : String}, u.Introduces credentials rest →
      u.name.toList.map Char.toLower <+:
        (credentials.toList.dropWhile Text.isBlank).map Char.toLower := by
    rintro u rest ⟨front, word, back, rfl, hBlank, hSame, -⟩
    have hWord := Text.sameText_iff.mp hSame
    rw [String.toList_append, String.toList_append, List.append_assoc,
      List.dropWhile_append_of_pos hBlank, Text.dropWhile_append_of_forall_not
        (isBlank_of_sameText hWord) (ne_nil_of_sameText hWord), List.map_append, hWord]
    exact List.prefix_append _ _
  rcases List.prefix_or_prefix_of_prefix (hNames h) (hNames h') with hPrefix | hPrefix
  · exact eq_of_name_isPrefix hPrefix
  · exact (eq_of_name_isPrefix hPrefix).symm

/-! ## Names of schemes -/

/-- The text is the name of the scheme, in any letter case and perhaps with white space around
it. -/
def IsNamed (s : Scheme) (text : String) : Prop :=
  Text.sameText s.name (Text.trim text) = true

instance (s : Scheme) (text : String) : Decidable (s.IsNamed text) :=
  inferInstanceAs (Decidable (_ = _))

theorem IsNamed.unique {t : Scheme} {text : String} (h : s.IsNamed text) (h' : t.IsNamed text) :
    s = t := by
  have hSame := (Text.sameText_iff.mp h).trans (Text.sameText_iff.mp h').symm
  exact eq_of_name_isPrefix (hSame ▸ List.prefix_rfl)

theorem mem_all (s : Scheme) : s ∈ all := by
  cases s <;> simp [all]

/-- A text is read as the scheme that it names; one that names none is refused. -/
theorem parse_cases (text : String) :
    (∃ s : Scheme, s.IsNamed text ∧ parse text = .ok s) ∨
      (∀ s : Scheme, ¬ s.IsNamed text) ∧ parse text = misconfigured (.unsupportedScheme text) := by
  unfold parse
  split
  · rename_i s hFind
    have hNamed := List.find?_some hFind
    exact .inl ⟨s, hNamed, rfl⟩
  · rename_i hFind
    have hNone := List.find?_eq_none.mp hFind
    exact .inr ⟨fun s => hNone s (mem_all s), rfl⟩

theorem parse_eq_ok_iff {text : String} : parse text = .ok s ↔ s.IsNamed text := by
  obtain ⟨t, hNamed, hParse⟩ | ⟨hNone, hParse⟩ := parse_cases text
  · rw [hParse]
    constructor
    · intro h
      cases h
      exact hNamed
    · intro h
      rw [hNamed.unique h]
  · rw [hParse]
    constructor
    · intro h
      cases h
    · intro h
      exact absurd h (hNone s)

end SignOn.Scheme
