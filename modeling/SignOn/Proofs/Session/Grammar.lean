import Mathlib.Tactic.Common
import SignOn.Proofs.Session.RoundTrip

/-!
# The grammar of tokens

A text is made of attributes (`HasAttributes`): one pair of quotes is left aside, ampersands
separate, parts without a character do not count, and each other part is cut at its first equals
sign. Whether such a text is a token depends on the last attribute with each of five keys and on
nothing else: user, principal and kind have to be there and not to be empty, both deadlines have to
be decimal numbers of 64 bits, and the one for inactivity may be missing (`Acceptable`). Which token
it is depends on the same values (`Described`), so texts that agree in them are the same token, or
fail in the same way (`parse_congr`).
-/

namespace SignOn.Token

open Text (pieces)

/-! ## The attributes of a text -/

/-- The text without one pair of quotes falls at its ampersands into parts; the parts that are not
empty are these attributes, whose keys are free of equals signs. -/
def HasAttributes (s : String) (attributes : List (String × String)) : Prop :=
  ∃ body parts,
    (s = "\"" ++ body ++ "\"" ∨ (∀ inner, s ≠ "\"" ++ inner ++ "\"") ∧ s = body) ∧
    body = "&".intercalate parts ∧ (∀ part ∈ parts, '&' ∉ part.toList) ∧
    parts.filter (· ≠ "") = attributes.map (fun a => a.1 ++ "=" ++ a.2) ∧
    ∀ a ∈ attributes, '=' ∉ a.1.toList

/-- The last attribute with a key has this value. -/
def IsLast (attributes : List (String × String)) (key value : String) : Prop :=
  ∃ earlier later, attributes = earlier ++ (key, value) :: later ∧ ∀ a ∈ later, a.1 ≠ key

/-- The text denotes a machine word in decimal. -/
def IsWord (text : String) : Prop :=
  ∃ n : Int64, Text.Decimal.Denotes text.toList n.toInt

/-- The last attributes with the keys of a token are such that there is one. -/
structure Acceptable (attributes : List (String × String)) : Prop where
  named : ∀ key ∈ ["u", "p", "t"], ∃ value, IsLast attributes key value ∧ value ≠ ""
  expires : ∃ text, IsLast attributes "e" text ∧ IsWord text
  inactive : ∀ text, IsLast attributes "i" text → IsWord text

/-- What the attributes say of a token. -/
structure Described (attributes : List (String × String)) (t : Token) : Prop where
  user : IsLast attributes "u" t.user
  principal : IsLast attributes "p" t.principal
  kind : IsLast attributes "t" t.kind
  named : t.user ≠ "" ∧ t.principal ≠ "" ∧ t.kind ≠ ""
  expires : ∃ text, IsLast attributes "e" text ∧ Text.Decimal.Denotes text.toList t.expires.toInt
  maxInactive :
    (∃ text, IsLast attributes "i" text ∧
      Text.Decimal.Denotes text.toList t.maxInactive.toInt) ∨
    (∀ a ∈ attributes, a.1 ≠ "i") ∧ t.maxInactive = -1

variable {s : String} {attributes : List (String × String)} {key value : String} {t : Token}

theorem filter_pieces_intercalate {parts : List (List Char)} (h : ∀ part ∈ parts, '&' ∉ part) :
    (pieces '&' (['&'].intercalate parts)).filter (!·.isEmpty) = parts.filter (!·.isEmpty) := by
  -- No parts at all make the same text as one empty part, which is dropped.
  cases parts with
  | nil => rfl
  | cons first rest => rw [Text.pieces_intercalate (List.cons_ne_nil _ _) h]

theorem attributes?_eq_some_iff {cs : List Char} :
    attributes? cs = some attributes ↔
      ∃ parts : List (List Char), cs = ['&'].intercalate parts ∧ (∀ part ∈ parts, '&' ∉ part) ∧
        parts.filter (!·.isEmpty) = attributes.map attributeChars ∧
        ∀ a ∈ attributes, '=' ∉ a.1.toList := by
  rw [attributes?, mapM_cut_eq_some_iff]
  constructor
  · rintro ⟨hParts, hKeys⟩
    exact ⟨pieces '&' cs, (Text.intercalate_pieces '&' cs).symm,
      fun _ hPart => Text.not_mem_of_mem_pieces hPart, hParts, hKeys⟩
  · rintro ⟨parts, rfl, hFree, hParts, hKeys⟩
    exact ⟨(filter_pieces_intercalate hFree).trans hParts, hKeys⟩

theorem filter_toList_iff {parts : List String} :
    (parts.map String.toList).filter (!·.isEmpty) = attributes.map attributeChars ↔
      parts.filter (· ≠ "") = attributes.map (fun a => a.1 ++ "=" ++ a.2) := by
  have hFull : (parts.map String.toList).filter (!·.isEmpty) =
      (parts.filter (· ≠ "")).map String.toList := by
    rw [List.filter_map]
    congr 1
    refine List.filter_congr fun part _ => ?_
    rw [Function.comp_apply, Bool.eq_iff_iff, decide_eq_true_eq, Bool.not_eq_true',
      List.isEmpty_eq_false_iff, Ne, String.toList_eq_nil_iff]
  have hChars : attributes.map attributeChars =
      (attributes.map (fun a => a.1 ++ "=" ++ a.2)).map String.toList := by
    rw [List.map_map]
    refine List.map_congr_left fun a _ => ?_
    simp [attributeChars]
  rw [hFull, hChars, List.map_inj_right fun _ _ h => String.toList_inj.mp h]

theorem hasAttributes_iff :
    HasAttributes s attributes ↔
      attributes? (Text.unquoteChars s.toList) = some attributes := by
  have hBody : Text.unquoteChars s.toList = (Text.unquote s).toList := by
    rw [Text.unquote, String.toList_ofList]
  rw [hBody, attributes?_eq_some_iff]
  constructor
  · rintro ⟨body, parts, hQuotes, hText, hFree, hParts, hKeys⟩
    refine ⟨parts.map String.toList, ?_, List.forall_mem_map.mpr hFree,
      filter_toList_iff.mpr hParts, hKeys⟩
    rw [Text.unquote_eq_iff.mpr hQuotes, hText, String.toList_intercalate]
    rfl
  · rintro ⟨charParts, hText, hFree, hParts, hKeys⟩
    obtain ⟨parts, rfl⟩ : ∃ parts : List String, charParts = parts.map String.toList :=
      ⟨charParts.map String.ofList, by simp [Function.comp_def]⟩
    refine ⟨Text.unquote s, parts, Text.unquote_eq_iff.mp rfl, ?_,
      fun part hPart => hFree _ (List.mem_map_of_mem hPart), filter_toList_iff.mp hParts, hKeys⟩
    rw [← String.toList_inj, hText, String.toList_intercalate]
    rfl

/-! ## The last attribute with a key -/

theorem lastValue?_eq_some_iff :
    lastValue? attributes key = some value ↔ IsLast attributes key value := by
  rw [lastValue?, List.lookup_eq_some_iff]
  constructor
  · rintro ⟨front, back, hAll, hFront⟩
    refine ⟨back.reverse, front.reverse, ?_, ?_⟩
    · rw [← List.reverse_reverse attributes, hAll]
      simp
    · intro a ha
      have hNe := hFront a (List.mem_reverse.mp ha)
      rw [bne_iff_ne] at hNe
      exact hNe.symm
  · rintro ⟨earlier, later, rfl, hLater⟩
    refine ⟨later.reverse, earlier.reverse, by simp, ?_⟩
    intro a ha
    rw [bne_iff_ne]
    exact (hLater a (List.mem_reverse.mp ha)).symm

theorem IsLast.unique {value' : String} (h : IsLast attributes key value)
    (h' : IsLast attributes key value') : value = value' := by
  rw [← lastValue?_eq_some_iff] at h h'
  exact Option.some.inj (h.symm.trans h')

theorem lastValue?_eq_none_iff :
    lastValue? attributes key = none ↔ ∀ a ∈ attributes, a.1 ≠ key := by
  rw [lastValue?, List.lookup_eq_none_iff]
  simp only [List.mem_reverse, bne_iff_ne, ne_comm]

/-! ## The token -/

theorem readDeadline_eq_ok_iff {n : Int64} :
    readDeadline key value = .ok n ↔ Text.Decimal.Denotes value.toList n.toInt := by
  rw [← Text.Decimal.int64?_eq_some_iff, readDeadline]
  cases Text.Decimal.int64? value with
  | none => simp [decodingFails]
  | some m => simp

theorem HasAttributes.ampersand_not_mem (h : HasAttributes s attributes)
    (hLast : IsLast attributes key value) : '&' ∉ value.toList := by
  obtain ⟨body, parts, -, -, hFree, hParts, -⟩ := h
  obtain ⟨earlier, later, rfl, -⟩ := hLast
  have hMem : key ++ "=" ++ value ∈ parts.filter (· ≠ "") := by
    rw [hParts]
    simp
  have hNone := hFree _ (List.mem_filter.mp hMem).1
  rw [String.toList_append, List.mem_append, not_or] at hNone
  exact hNone.2

theorem HasAttributes.isField_iff (h : HasAttributes s attributes)
    (hLast : IsLast attributes key value) : isField value = true ↔ value ≠ "" := by
  rw [Token.isField_iff, and_iff_left (h.ampersand_not_mem hLast)]

theorem readInactivity_eq_ok_iff {n : Int64} :
    readInactivity attributes (-1) = .ok n ↔
      (∃ text, IsLast attributes "i" text ∧ Text.Decimal.Denotes text.toList n.toInt) ∨
        (∀ a ∈ attributes, a.1 ≠ "i") ∧ n = -1 := by
  rw [readInactivity]
  cases hLast : lastValue? attributes "i" with
  | none =>
    have hNone := lastValue?_eq_none_iff.mp hLast
    have hNoText : ¬ ∃ text, IsLast attributes "i" text ∧
        Text.Decimal.Denotes text.toList n.toInt := by
      rintro ⟨text, hText, -⟩
      rw [← lastValue?_eq_some_iff, hLast] at hText
      cases hText
    rw [or_iff_right hNoText, and_iff_right hNone]
    exact ⟨fun h => (Except.ok.inj h).symm, fun h => congrArg _ h.symm⟩
  | some i =>
    have hSome := lastValue?_eq_some_iff.mp hLast
    have hThere : ¬ ((∀ a ∈ attributes, a.1 ≠ "i") ∧ n = -1) := by
      rintro ⟨hNone, -⟩
      rw [lastValue?_eq_none_iff.mpr hNone] at hLast
      cases hLast
    rw [or_iff_left hThere]
    dsimp only
    rw [readDeadline_eq_ok_iff]
    constructor
    · intro h
      exact ⟨i, hSome, h⟩
    · rintro ⟨text, hText, h⟩
      rwa [hSome.unique hText]

theorem ofAttributes_eq_ok_iff (h : HasAttributes s attributes) :
    TokenState.ofAttributes attributes = .ok t.toTokenState ↔ Described attributes t := by
  -- The values come from a text that was cut at its ampersands, so the check of the fields can fail
  -- for those that are empty only.
  constructor
  · intro hRead
    unfold TokenState.ofAttributes at hRead
    split at hRead
    · rename_i user principal kind e hUser hPrincipal hKind hExpires
      rw [lastValue?_eq_some_iff] at hUser hPrincipal hKind hExpires
      obtain ⟨expires, hNumber, hRead⟩ := bind_eq_ok_iff.mp hRead
      obtain ⟨made, hMade, hRead⟩ := bind_eq_ok_iff.mp hRead
      obtain ⟨maxInactive, hIdle, hRead⟩ := bind_eq_ok_iff.mp hRead
      obtain ⟨rfl, hU, hP, hK⟩ := TokenState.make_eq_ok_iff.mp hMade
      have hNamed := And.intro ((h.isField_iff hUser).mp hU)
        (And.intro ((h.isField_iff hPrincipal).mp hP) ((h.isField_iff hKind).mp hK))
      have hEnds := readDeadline_eq_ok_iff.mp hNumber
      have hInactive := readInactivity_eq_ok_iff.mp hIdle
      have hState := Except.ok.inj hRead
      constructor <;> rw [← hState]
      · exact hUser
      · exact hPrincipal
      · exact hKind
      · exact hNamed
      · exact ⟨e, hExpires, hEnds⟩
      · exact hInactive
    · cases hRead
  · rintro ⟨hUser, hPrincipal, hKind, ⟨hU, hP, hK⟩, ⟨e, hExpires, hEnds⟩, hInactive⟩
    have hFields : t.WellFormed := ⟨(h.isField_iff hUser).mpr hU, (h.isField_iff hPrincipal).mpr hP,
      (h.isField_iff hKind).mpr hK⟩
    have hMade := TokenState.make_eq_ok_iff.mpr ⟨rfl, hFields.user, hFields.principal, hFields.kind⟩
    rw [← lastValue?_eq_some_iff] at hUser hPrincipal hKind hExpires
    rw [TokenState.ofAttributes, hUser, hPrincipal, hKind, hExpires]
    refine bind_eq_ok_iff.mpr ⟨_, readDeadline_eq_ok_iff.mpr hEnds, bind_eq_ok_iff.mpr ⟨_, hMade,
      bind_eq_ok_iff.mpr ⟨_, readInactivity_eq_ok_iff.mpr hInactive, ?_⟩⟩⟩
    exact congrArg _ (generate_toTokenState hFields.isAnonymous_eq_false)

/-- A text is read as a token exactly if it is made of attributes that describe the token. -/
theorem parse_eq_ok_iff :
    parse s = .ok t ↔ ∃ attributes, HasAttributes s attributes ∧ Described attributes t := by
  rw [parse, ofState_eq_ok_iff, TokenState.parse]
  cases hRead : attributes? (Text.unquoteChars s.toList) with
  | none =>
    constructor
    · intro h
      cases h
    · rintro ⟨attributes, hText, -⟩
      rw [hasAttributes_iff, hRead] at hText
      cases hText
  | some attributes =>
    have hText : HasAttributes s attributes := hasAttributes_iff.mpr hRead
    constructor
    · intro h
      exact ⟨attributes, hText, (ofAttributes_eq_ok_iff hText).mp h⟩
    · rintro ⟨attributes', hText', h⟩
      rw [hasAttributes_iff, hRead] at hText'
      cases hText'
      exact (ofAttributes_eq_ok_iff hText).mpr h

theorem exists_described_iff : (∃ t, Described attributes t) ↔ Acceptable attributes := by
  constructor
  · rintro ⟨t, hUser, hPrincipal, hKind, ⟨hU, hP, hK⟩, ⟨e, hExpires, hEnds⟩, hInactive⟩
    refine ⟨?_, ⟨e, hExpires, t.expires, hEnds⟩, ?_⟩
    · simp only [List.forall_mem_cons]
      exact ⟨⟨t.user, hUser, hU⟩, ⟨t.principal, hPrincipal, hP⟩, ⟨t.kind, hKind, hK⟩, by simp⟩
    · intro text hText
      rcases hInactive with ⟨i, hLast, hIdle⟩ | ⟨hNone, -⟩
      · exact hText.unique hLast ▸ ⟨t.maxInactive, hIdle⟩
      · obtain ⟨earlier, later, rfl, -⟩ := hText
        exact absurd rfl (hNone ("i", text) (by simp))
  · rintro ⟨hNamed, ⟨e, hExpires, ends, hEnds⟩, hInactive⟩
    simp only [List.forall_mem_cons] at hNamed
    obtain ⟨⟨user, hUser, hU⟩, ⟨principal, hPrincipal, hP⟩, ⟨kind, hKind, hK⟩, -⟩ := hNamed
    obtain ⟨idle, hIdle⟩ : ∃ idle : Int64,
        (∃ text, IsLast attributes "i" text ∧ Text.Decimal.Denotes text.toList idle.toInt) ∨
          (∀ a ∈ attributes, a.1 ≠ "i") ∧ idle = -1 := by
      cases hLast : lastValue? attributes "i" with
      | none => exact ⟨-1, .inr ⟨lastValue?_eq_none_iff.mp hLast, rfl⟩⟩
      | some text =>
        rw [lastValue?_eq_some_iff] at hLast
        obtain ⟨idle, hIdle⟩ := hInactive text hLast
        exact ⟨idle, .inl ⟨text, hLast, hIdle⟩⟩
    exact ⟨{ user, principal, kind, maxInactive := idle, expires := ends }, hUser, hPrincipal,
      hKind, ⟨hU, hP, hK⟩, ⟨e, hExpires, hEnds⟩, hIdle⟩

/-- Only the last values of five keys count, for success and failure alike. -/
theorem parse_congr {s s' : String} {attributes attributes' : List (String × String)}
    (h : HasAttributes s attributes) (h' : HasAttributes s' attributes')
    (hLast : ∀ key ∈ ["u", "p", "t", "e", "i"], ∀ value,
      IsLast attributes key value ↔ IsLast attributes' key value) : parse s = parse s' := by
  have hValue : ∀ key ∈ ["u", "p", "t", "e", "i"],
      lastValue? attributes key = lastValue? attributes' key := by
    intro key hKey
    refine Option.ext fun value => ?_
    rw [lastValue?_eq_some_iff, lastValue?_eq_some_iff, hLast key hKey value]
  simp only [List.forall_mem_cons] at hValue
  obtain ⟨hUser, hPrincipal, hKind, hExpires, hInactive, -⟩ := hValue
  have hToken : TokenState.ofAttributes attributes = TokenState.ofAttributes attributes' := by
    unfold TokenState.ofAttributes readInactivity
    rw [hUser, hPrincipal, hKind, hExpires, hInactive]
  rw [hasAttributes_iff] at h h'
  apply ofState_congr
  rw [TokenState.parse, TokenState.parse, h, h']
  exact hToken

/-- **A text is read as a token exactly if it is in the grammar**, and as the token that its last
attributes describe. Texts with the same last attributes are the same token, in whatever order these
stand and whatever else there is; and the token that was read is read again from its own text. -/
theorem parsing_exact (s : String) :
    ((∃ t, parse s = .ok t) ↔ ∃ attributes, HasAttributes s attributes ∧ Acceptable attributes) ∧
      (∀ t, parse s = .ok t ↔
        ∃ attributes, HasAttributes s attributes ∧ Described attributes t) ∧
      (∀ s' attributes attributes', HasAttributes s attributes → HasAttributes s' attributes' →
        (∀ key ∈ ["u", "p", "t", "e", "i"], ∀ value,
          IsLast attributes key value ↔ IsLast attributes' key value) → parse s = parse s') ∧
      ∀ t, parse s = .ok t → parse t.encode = .ok t := by
  refine ⟨?_, fun t => parse_eq_ok_iff, fun s' a a' => parse_congr, ?_⟩
  · simp only [parse_eq_ok_iff, ← exists_described_iff]
    constructor
    · rintro ⟨t, attributes, hText, hToken⟩
      exact ⟨attributes, hText, t, hToken⟩
    · rintro ⟨attributes, hText, t, hToken⟩
      exact ⟨t, attributes, hText, hToken⟩
  · intro t h
    exact parse_encode (wellFormed_of_parse h)

/-- Quotes, empty parts, unknown keys, a plus sign, zeros, an equals sign in a value and an earlier
user in one text; the same last values in another order in the other. -/
theorem parsing_exact_disordered :
    parse "\"u=eve&&x==&p=a=b&i=+007&t=simple&u=bob&=&e=-7\"" =
        .ok { user := "bob", principal := "a=b", kind := "simple", maxInactive := 7,
              expires := -7 } ∧
      parse "\"u=eve&&x==&p=a=b&i=+007&t=simple&u=bob&=&e=-7\"" =
        parse "e=-7&u=bob&t=simple&p=a=b&i=+007" := by
  let here : List (String × String) :=
    [("u", "eve"), ("x", "="), ("p", "a=b"), ("i", "+007"), ("t", "simple"), ("u", "bob"), ("", ""),
      ("e", "-7")]
  let there : List (String × String) :=
    [("e", "-7"), ("u", "bob"), ("t", "simple"), ("p", "a=b"), ("i", "+007")]
  have hHere : HasAttributes "\"u=eve&&x==&p=a=b&i=+007&t=simple&u=bob&=&e=-7\"" here :=
    hasAttributes_iff.mpr rfl
  have hThere : HasAttributes "e=-7&u=bob&t=simple&p=a=b&i=+007" there :=
    hasAttributes_iff.mpr rfl
  have hLast : ∀ key ∈ ["u", "p", "t", "e", "i"],
      lastValue? here key = lastValue? there key := by decide
  have last : ∀ {key value : String}, lastValue? here key = some value → IsLast here key value :=
    lastValue?_eq_some_iff.mp
  have number : ∀ {text : String} {n : Int64}, Text.Decimal.int64? text = some n →
      Text.Decimal.Denotes text.toList n.toInt := Text.Decimal.int64?_eq_some_iff.mp
  refine ⟨?_, ?_⟩
  · refine ((parsing_exact _).2.1 _).mpr ⟨here, hHere, ?_⟩
    exact {
      user := last (by decide)
      principal := last (by decide)
      kind := last (by decide)
      named := by decide
      expires := ⟨"-7", last (by decide), number (by decide)⟩
      maxInactive := .inl ⟨"+007", last (by decide), number (by decide)⟩ }
  · refine (parsing_exact _).2.2.1 _ here there hHere hThere fun key hKey value => ?_
    rw [← lastValue?_eq_some_iff, ← lastValue?_eq_some_iff, hLast key hKey]

end SignOn.Token
