import SignOn.Proofs.Http.Plain
import SignOn.Proofs.Result
import SignOn.Proofs.Text.Split
import SignOn.Session.Signature
import SignOn.Session.Token

/-!
# The text form of a token

A token that names a user has three fields that are not empty and free of ampersands
(`Token.WellFormed`), so the ampersands of its text form are exactly those between its attributes
(`pieces_encode`), and reading the text gives the token back whatever its deadlines are
(`parse_encode`). Whatever is read is such a token (`wellFormed_of_parse`). All other characters of
the text than those of the fields are plain (`forall_mem_encode_iff`), and the mark of a signature
does not occur in it (`mark_not_isInfix`).
-/

namespace SignOn.Token

open Text (pieces)

/-- Every field of the token is one that a token can have. -/
structure WellFormed (t : Token) : Prop where
  user : isField t.user = true
  principal : isField t.principal = true
  kind : isField t.kind = true

theorem isField_iff {s : String} : isField s = true ↔ s ≠ "" ∧ '&' ∉ s.toList := by
  simp [isField]

/-- The text form adds nothing to the fields. -/
theorem eq_of_fields {t s : Token} (hUser : t.user = s.user) (hPrincipal : t.principal = s.principal)
    (hKind : t.kind = s.kind) (hInactive : t.maxInactive = s.maxInactive)
    (hExpires : t.expires = s.expires) : t = s := by
  obtain ⟨⟨user, principal, kind, maxInactive, expires, encoded⟩, hCurrent⟩ := t
  obtain ⟨⟨user', principal', kind', maxInactive', expires', encoded'⟩, hCurrent'⟩ := s
  dsimp only at hUser hPrincipal hKind hInactive hExpires
  subst hUser hPrincipal hKind hInactive hExpires
  obtain rfl : encoded = encoded' := hCurrent.trans hCurrent'.symm
  rfl

theorem ofState_eq_ok_iff {made : Result TokenState} {h : ∀ s, made = .ok s → s.IsCurrent}
    {t : Token} : ofState made h = .ok t ↔ made = .ok t.toTokenState := by
  cases made with
  | error e => simp [ofState]
  | ok s =>
    simp only [ofState, Except.ok.injEq]
    constructor
    · rintro rfl
      rfl
    · rintro rfl
      rfl

theorem ofState_congr {made made' : Result TokenState} {h : ∀ s, made = .ok s → s.IsCurrent}
    {h' : ∀ s, made' = .ok s → s.IsCurrent} (hMade : made = made') :
    ofState made h = ofState made' h' := by
  subst hMade
  rfl

theorem encode_of_named {t : Token} (h : t.isAnonymous = false) :
    t.encode = t.attributeText := by
  have hText : t.encode = t.text := t.isCurrent
  rw [hText, TokenState.text, if_neg (by simp [h])]

theorem encode_ne_empty {t : Token} (h : t.isAnonymous = false) : t.encode ≠ "" := by
  rw [encode_of_named h, TokenState.attributeText]
  simp

/-- Writing the text form of a token once more changes nothing. -/
theorem generate_toTokenState {t : Token} (h : t.isAnonymous = false) :
    t.toTokenState.generate = t.toTokenState := by
  rw [TokenState.generate, ← encode_of_named h]
  rfl

theorem WellFormed.isAnonymous_eq_false {t : Token} (h : t.WellFormed) : t.isAnonymous = false := by
  have hUser := (isField_iff.mp h.user).1
  simpa [TokenState.isAnonymous] using hUser

theorem make_eq_ok_iff {user principal kind : String} {t : Token} :
    make user principal kind = .ok t ↔ t = { user, principal, kind } ∧ t.WellFormed := by
  rw [make, ofState_eq_ok_iff, TokenState.make_eq_ok_iff]
  constructor
  · rintro ⟨hMade, hUser, hPrincipal, hKind⟩
    have hFields : t = { user, principal, kind } := by
      apply eq_of_fields <;> rw [hMade] <;> rfl
    subst hFields
    exact ⟨rfl, hUser, hPrincipal, hKind⟩
  · rintro ⟨rfl, hForm⟩
    have hGenerated := generate_toTokenState hForm.isAnonymous_eq_false
    exact ⟨hGenerated.symm, hForm.user, hForm.principal, hForm.kind⟩

/-! ## Other deadlines -/

section Deadlines

variable {t : Token}

theorem toTokenState_setExpires (h : t.isAnonymous = false) (deadline : Int64) :
    (t.setExpires deadline).toTokenState =
      TokenState.generate { t.toTokenState with expires := deadline } :=
  if_neg (by simp [h])

theorem toTokenState_setMaxInactive (h : t.isAnonymous = false) (deadline : Int64) :
    (t.setMaxInactive deadline).toTokenState =
      TokenState.generate { t.toTokenState with maxInactive := deadline } :=
  if_neg (by simp [h])

theorem WellFormed.setExpires (h : t.WellFormed) (deadline : Int64) :
    (t.setExpires deadline).WellFormed := by
  constructor <;> rw [toTokenState_setExpires h.isAnonymous_eq_false]
  · exact h.user
  · exact h.principal
  · exact h.kind

theorem WellFormed.setMaxInactive (h : t.WellFormed) (deadline : Int64) :
    (t.setMaxInactive deadline).WellFormed := by
  constructor <;> rw [toTokenState_setMaxInactive h.isAnonymous_eq_false]
  · exact h.user
  · exact h.principal
  · exact h.kind

end Deadlines

/-! ## The attributes of a token -/

/-- The attributes in the text form of a token, in order. -/
def attributeList (t : Token) : List (String × String) :=
  [("u", t.user), ("p", t.principal), ("t", t.kind)] ++
    (if t.maxInactive = -1 then [] else [("i", Text.Decimal.print t.maxInactive)]) ++
    [("e", Text.Decimal.print t.expires)]

/-- The characters of an attribute. -/
def attributeChars (a : String × String) : List Char :=
  a.1.toList ++ '=' :: a.2.toList

variable {t : Token}

/-- An attribute has one of the usual keys, and its value is a field or a number. -/
theorem mem_attributeList {a : String × String} (h : a ∈ t.attributeList) :
    a.1 ∈ ["u", "p", "t", "i", "e"] ∧
      (a.2 ∈ [t.user, t.principal, t.kind] ∨ ∃ deadline, a.2 = Text.Decimal.print deadline) := by
  simp only [attributeList, List.mem_append, List.mem_cons, List.not_mem_nil, or_false] at h
  rcases h with ((rfl | rfl | rfl) | h) | rfl
  · simp
  · simp
  · simp
  · split at h
    · cases h
    · rw [List.mem_singleton.mp h]
      exact ⟨by simp, .inr ⟨_, rfl⟩⟩
  · exact ⟨by simp, .inr ⟨_, rfl⟩⟩

theorem WellFormed.isField_of_mem (h : t.WellFormed) :
    ∀ s ∈ [t.user, t.principal, t.kind], isField s = true := by
  simp [h.user, h.principal, h.kind]

/-- No attribute holds an ampersand. -/
theorem WellFormed.ampersand_not_mem (h : t.WellFormed) :
    ∀ a ∈ t.attributeList, '&' ∉ attributeChars a := by
  intro a ha
  obtain ⟨hKey, hValue⟩ := mem_attributeList ha
  have hInKey : ∀ key ∈ ["u", "p", "t", "i", "e"], '&' ∉ key.toList := by decide
  have hInValue : '&' ∉ a.2.toList := by
    rcases hValue with hField | ⟨deadline, hNumber⟩
    · exact (isField_iff.mp (h.isField_of_mem _ hField)).2
    · rw [hNumber]
      intro hMem
      rcases Text.Decimal.mem_print hMem with hDigit | hSign
      · exact absurd hDigit (by decide)
      · exact absurd hSign (by decide)
  simp [attributeChars, hInKey _ hKey, hInValue]

theorem WellFormed.encode_toList (h : t.WellFormed) :
    t.encode.toList = ['&'].intercalate (t.attributeList.map attributeChars) := by
  rw [encode_of_named h.isAnonymous_eq_false, TokenState.attributeText, TokenState.inactivityText,
    attributeList]
  split <;> simp [attributeChars]

/-- The ampersands of the text form are those between the attributes. -/
theorem WellFormed.pieces_encode (h : t.WellFormed) :
    pieces '&' t.encode.toList = t.attributeList.map attributeChars := by
  rw [h.encode_toList]
  refine Text.pieces_intercalate (by simp [attributeList]) ?_
  intro part hPart
  obtain ⟨a, ha, rfl⟩ := List.mem_map.mp hPart
  exact h.ampersand_not_mem a ha

/-! ## Reading a token -/

theorem cut_eq_some_iff {part : List Char} {a : String × String} :
    ((Text.cut? '=' part).map fun (k, v) => (String.ofList k, String.ofList v)) = some a ↔
      part = attributeChars a ∧ '=' ∉ a.1.toList := by
  rw [Option.map_eq_some_iff]
  constructor
  · rintro ⟨⟨k, v⟩, hCut, rfl⟩
    obtain ⟨hKey, rfl⟩ := Text.cut?_eq_some_iff.mp hCut
    simp [attributeChars, hKey]
  · rintro ⟨rfl, hKey⟩
    exact ⟨(a.1.toList, a.2.toList), Text.cut?_eq_some_iff.mpr ⟨hKey, rfl⟩, by simp⟩

/-- Parts are cut into attributes exactly if they are the characters of these, and the cuts are
where the keys end. -/
theorem mapM_cut_eq_some_iff {attributes : List (String × String)} {parts : List (List Char)} :
    (parts.mapM fun part =>
      (Text.cut? '=' part).map fun (k, v) => (String.ofList k, String.ofList v)) =
        some attributes ↔
      parts = attributes.map attributeChars ∧ ∀ a ∈ attributes, '=' ∉ a.1.toList := by
  induction parts generalizing attributes with
  | nil => cases attributes <;> simp
  | cons part parts ih =>
    rw [List.mapM_cons, Option.bind_eq_bind, Option.bind_eq_some_iff]
    simp only [cut_eq_some_iff, Option.bind_eq_bind, Option.bind_eq_some_iff, ih]
    constructor
    · rintro ⟨a, ⟨rfl, hKey⟩, rest, ⟨rfl, hKeys⟩, hAll⟩
      cases hAll
      exact ⟨rfl, List.forall_mem_cons.mpr ⟨hKey, hKeys⟩⟩
    · rintro ⟨hParts, hKeys⟩
      obtain ⟨a, rest, rfl, rfl, rfl⟩ := List.map_eq_cons_iff.mp hParts.symm
      rw [List.forall_mem_cons] at hKeys
      exact ⟨a, ⟨rfl, hKeys.1⟩, rest, ⟨rfl, hKeys.2⟩, rfl⟩

/-- Attributes whose keys are free of equals signs are read as they were written. -/
theorem attributes?_of_pieces {attributes : List (String × String)} {cs : List Char}
    (hPieces : pieces '&' cs = attributes.map attributeChars)
    (hKeys : ∀ a ∈ attributes, '=' ∉ a.1.toList) : attributes? cs = some attributes := by
  have hFull : ∀ part ∈ attributes.map attributeChars, (!part.isEmpty) = true := by
    intro part hPart
    obtain ⟨a, -, rfl⟩ := List.mem_map.mp hPart
    simp [attributeChars]
  rw [attributes?, hPieces, List.filter_eq_self.mpr hFull]
  exact mapM_cut_eq_some_iff.mpr ⟨rfl, hKeys⟩

/-- Each attribute of a token is found under its key. -/
theorem lastValue?_attributeList (t : Token) :
    lastValue? t.attributeList "u" = some t.user ∧
      lastValue? t.attributeList "p" = some t.principal ∧
      lastValue? t.attributeList "t" = some t.kind ∧
      lastValue? t.attributeList "e" = some (Text.Decimal.print t.expires) ∧
      lastValue? t.attributeList "i" =
        if t.maxInactive = -1 then none else some (Text.Decimal.print t.maxInactive) := by
  unfold attributeList lastValue?
  split <;> simp [List.lookup_cons]

theorem readDeadline_print (key : String) (deadline : Int64) :
    readDeadline key (Text.Decimal.print deadline) = .ok deadline := by
  rw [readDeadline, Text.Decimal.int64?_print]

theorem readInactivity_attributeList (t : Token) :
    readInactivity t.attributeList (-1) = .ok t.maxInactive := by
  obtain ⟨-, -, -, -, hInactive⟩ := lastValue?_attributeList t
  rw [readInactivity, hInactive]
  by_cases hNever : t.maxInactive = -1
  · rw [if_pos hNever, hNever]
  · simp only [if_neg hNever, readDeadline_print]

theorem ofAttributes_attributeList (h : t.WellFormed) :
    TokenState.ofAttributes t.attributeList = .ok t.toTokenState := by
  obtain ⟨hUser, hPrincipal, hKind, hExpires, -⟩ := lastValue?_attributeList t
  have hMake := TokenState.make_eq_ok_iff.mpr ⟨rfl, h.user, h.principal, h.kind⟩
  rw [TokenState.ofAttributes, hUser, hPrincipal, hKind, hExpires]
  refine bind_eq_ok_iff.mpr ⟨t.expires, readDeadline_print _ _, bind_eq_ok_iff.mpr ⟨_, hMake,
    bind_eq_ok_iff.mpr ⟨t.maxInactive, readInactivity_attributeList t, ?_⟩⟩⟩
  exact congrArg _ (generate_toTokenState h.isAnonymous_eq_false)

/-- The text form does not stand in quotes. -/
theorem WellFormed.unquoteChars_encode (h : t.WellFormed) :
    Text.unquoteChars t.encode.toList = t.encode.toList := by
  apply Text.unquoteChars_of_ne
  intro inner hEq
  rw [h.encode_toList] at hEq
  simp [attributeList, attributeChars] at hEq

/-- **Reading the text form of a token gives the token back**, whatever its deadlines are. -/
theorem parse_encode (h : t.WellFormed) : parse t.encode = .ok t := by
  have hKeys : ∀ key ∈ ["u", "p", "t", "i", "e"], '=' ∉ key.toList := by decide
  have hRead : attributes? t.encode.toList = some t.attributeList :=
    attributes?_of_pieces h.pieces_encode fun a ha => hKeys _ (mem_attributeList ha).1
  rw [parse, ofState_eq_ok_iff, TokenState.parse, h.unquoteChars_encode, hRead]
  exact ofAttributes_attributeList h

/-- What is read is a token that names a user. -/
theorem wellFormed_of_parse {s : String} (h : parse s = .ok t) : t.WellFormed := by
  rw [parse, ofState_eq_ok_iff, TokenState.parse] at h
  split at h
  · unfold TokenState.ofAttributes at h
    split at h
    · obtain ⟨expires, -, h⟩ := bind_eq_ok_iff.mp h
      obtain ⟨made, hMade, h⟩ := bind_eq_ok_iff.mp h
      obtain ⟨maxInactive, -, h⟩ := bind_eq_ok_iff.mp h
      obtain ⟨rfl, hUser, hPrincipal, hKind⟩ := TokenState.make_eq_ok_iff.mp hMade
      have hState := Except.ok.inj h
      constructor <;> rw [← hState]
      · exact hUser
      · exact hPrincipal
      · exact hKind
    · cases h
  · cases h

/-! ## The characters of a token -/

/-- What holds of plain characters holds of all characters of a token exactly if it holds of those
of its fields. -/
theorem forall_mem_encode_iff {P : Char → Prop} (hToken : t.isAnonymous = false)
    (hPlain : ∀ c, Http.Headers.IsPrintable c ∧ c ≠ ';' → P c) :
    (∀ c ∈ t.encode.toList, P c) ↔ ∀ s ∈ [t.user, t.principal, t.kind], ∀ c ∈ s.toList, P c := by
  have plain : ∀ s, Http.IsPlain s → ∀ c ∈ s.toList, P c := fun s hs c hc => hPlain c (hs c hc)
  have hInactive : Http.IsPlain t.inactivityText := by
    unfold TokenState.inactivityText
    split
    · decide
    · exact Http.isPlain_append.mpr
        ⟨Http.isPlain_append.mpr ⟨by decide, Http.isPlain_print _⟩, by decide⟩
  rw [encode_of_named hToken, TokenState.attributeText]
  simp only [String.toList_append, List.mem_append]
  constructor
  · intro h s hs c hc
    apply h c
    simp only [List.mem_cons, List.not_mem_nil, or_false] at hs
    rcases hs with rfl | rfl | rfl <;> simp [hc]
  · intro h c hc
    simp only [List.forall_mem_cons] at h
    obtain ⟨hUser, hPrincipal, hKind, -⟩ := h
    rcases hc with ((((((((hc | hc) | hc) | hc) | hc) | hc) | hc) | hc) | hc) | hc
    · exact plain "u=" (by decide) c hc
    · exact hUser c hc
    · exact plain "&p=" (by decide) c hc
    · exact hPrincipal c hc
    · exact plain "&t=" (by decide) c hc
    · exact hKind c hc
    · exact plain "&" (by decide) c hc
    · exact plain _ hInactive c hc
    · exact plain "e=" (by decide) c hc
    · exact plain _ (Http.isPlain_print _) c hc

/-- No mark of a signature stands in a token, nor where a token follows a text without
ampersands. -/
theorem WellFormed.mark_not_isInfix (h : t.WellFormed) {head : List Char} (hHead : '&' ∉ head) :
    ¬ Signature.mark.toList <:+: head ++ t.encode.toList := by
  rintro ⟨before, behind, hEq⟩
  have hMark : before ++ '&' :: ('s' :: '=' :: behind) = head ++ t.encode.toList := by
    rw [← hEq]
    simp [Signature.mark]
  -- The mark begins inside the token, so a piece of the token begins with its second character.
  have hInside : ∃ front, t.encode.toList = front ++ '&' :: ('s' :: '=' :: behind) := by
    rcases List.append_eq_append_iff.mp hMark with ⟨between, hHead', hRest⟩ | ⟨front, -, hRest⟩
    · cases between with
      | nil => exact ⟨[], by simpa using hRest.symm⟩
      | cons c between =>
        obtain ⟨rfl, -⟩ := List.cons.inj hRest
        rw [hHead'] at hHead
        simp at hHead
    · exact ⟨front, hRest⟩
  obtain ⟨front, hFront⟩ := hInside
  obtain ⟨rest, hPiece⟩ :=
    Text.exists_cons_mem_pieces (d := '&') (show 's' ≠ '&' by decide) ('=' :: behind)
  have hMem : 's' :: rest ∈ t.attributeList.map attributeChars := by
    rw [← h.pieces_encode, hFront, Text.pieces_append]
    exact List.mem_append_right _ hPiece
  obtain ⟨a, ha, hChars⟩ := List.mem_map.mp hMem
  have hKeys : ∀ key ∈ ["u", "p", "t", "i", "e"],
      key.toList ≠ [] ∧ key.toList.head? ≠ some 's' := by decide
  obtain ⟨hFull, hFirst⟩ := hKeys _ (mem_attributeList ha).1
  rw [attributeChars] at hChars
  cases hKey : a.1.toList with
  | nil => exact hFull hKey
  | cons c cs =>
    rw [hKey] at hChars hFirst
    obtain ⟨rfl, -⟩ := List.cons.inj hChars
    exact hFirst rfl

end SignOn.Token
