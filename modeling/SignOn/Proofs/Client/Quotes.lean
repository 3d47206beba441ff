import SignOn.Proofs.Client.SessionCookie

/-!
# The quotes around what a client holds

A value is put in quotes unless it begins with one. So what a client holds always begins with a
quote, but it ends with another one only if the value does or did not begin with one
(`held_of_updates`): a value that was cut behind its first quote is sent as it is
(`held_of_updates_cut`).
-/

namespace SignOn

open SignOn.Http (Cookie Headers)

namespace SessionCookie

/-! ## Values in quotes -/

/-- A value comes to stand in quotes unless it has a quote in front and stands in none. -/
theorem inQuotes_quoted_iff {value : String} :
    InQuotes (quoted value) ↔ (value.toList.head? = some '"' → InQuotes value) := by
  by_cases hHead : value.toList.head? = some '"'
  · rw [quoted_of_head hHead]
    exact ⟨fun h _ => h, fun h => h hHead⟩
  · rw [quoted_of_not_head hHead]
    exact iff_of_true ⟨value, rfl⟩ fun h => absurd h hHead

/-! ## What is shown and sent -/

theorem eq_quotes_unquote {s : String} (h : InQuotes s) : s = "\"" ++ Text.unquote s ++ "\"" := by
  obtain ⟨inner, rfl⟩ := h
  rw [Text.unquote_quoted]

/-- A value that does not come to stand in quotes is kept as it is. -/
theorem quoted_of_not_inQuotes {value : String} (h : ¬ InQuotes (quoted value)) :
    quoted value = value := by
  by_cases hHead : value.toList.head? = some '"'
  · exact quoted_of_head hHead
  · exact absurd (inQuotes_quoted_iff.mpr fun hQuote => absurd hQuote hHead) h

theorem field?_of_admits {c : SessionCookie} {held : HeldCookie} (h : c.held = some held)
    (hAdmits : Headers.Admits held.text) :
    c.field? = some (Text.Utf8.encode ("auth=" ++ held.text)) := by
  rw [field?, h]
  exact Headers.value?_eq_some_iff.mpr ⟨Headers.admits_append.mpr ⟨by decide, hAdmits⟩, rfl⟩

theorem field?_of_not_admits {c : SessionCookie} {held : HeldCookie} (h : c.held = some held)
    (hAdmits : ¬ Headers.Admits held.text) : c.field? = none := by
  rw [field?, h, Option.bind_some, Option.eq_none_iff_forall_ne_some]
  intro value hValue
  exact hAdmits (Headers.admits_append.mp (Headers.value?_eq_some_iff.mp hValue).1).2

/-! ## Updates -/

/-- What can be done with a session cookie. -/
inductive Update where
  /-- A value is set, or none. -/
  | set (value : Option String)
  | clear
  /-- An answer comes in at a moment. -/
  | answer (now : Int) (headers : Headers)

namespace Update

/-- The session cookie after an update. -/
def apply (c : SessionCookie) : Update → SessionCookie
  | set value => ofValue? value
  | clear => {}
  | answer now headers => c.afterAnswer now headers

/-- The update leaves the cookie alone: it is an answer that does not set it. -/
def IsIdle : Update → Prop
  | answer _ headers => NoneSets headers
  | _ => False

/-- The update gives the cookie a value. -/
inductive Gives : Update → String → Prop
  | set (value : String) : Gives (set (some value)) value
  | answer {now : Int} {headers : Headers} {field : Text.Bytes} {cookie : Cookie}
      (hLast : LastSets headers field cookie) : Gives (answer now headers) cookie.value

variable {update : Update}

theorem apply_of_isIdle (h : update.IsIdle) (c : SessionCookie) : apply c update = c := by
  cases update with
  | answer now headers => exact afterAnswer_of_noneSets h
  | set value => exact h.elim
  | clear => exact h.elim

/-- What is held after an update that does not leave the cookie alone was given by it. -/
theorem exists_gives {c : SessionCookie} {held : HeldCookie} (hBusy : ¬ update.IsIdle)
    (h : (apply c update).held = some held) :
    ∃ value, update.Gives value ∧ Text.unquote value ≠ "" ∧ held.text = quoted value := by
  cases update with
  | set value =>
    cases value with
    | none => cases h
    | some value =>
      obtain ⟨hBlank, hText, -⟩ := ofValue_held_eq_some h
      exact ⟨value, .set value, hBlank, hText⟩
  | clear => cases h
  | answer now headers =>
    obtain ⟨field, cookie, hLast⟩ := (noneSets_or_lastSets headers).resolve_left hBusy
    rw [apply, afterAnswer_of_lastSets hLast] at h
    obtain ⟨hBlank, hText, -⟩ := ofValue_held_eq_some h
    exact ⟨cookie.value, .answer hLast, hBlank, hText⟩

/-- The session cookie after some updates, where there was none before. -/
def applyAll (updates : List Update) : SessionCookie :=
  updates.foldl apply {}

/-- What is held after some updates was held before, or the last of them that does not leave the
cookie alone has given it. -/
theorem foldl_apply_cases {updates : List Update} {c : SessionCookie} {held : HeldCookie}
    (h : (updates.foldl apply c).held = some held) :
    (∀ other ∈ updates, other.IsIdle) ∧ c.held = some held ∨
      ∃ before update after value, updates = before ++ update :: after ∧
        (∀ other ∈ after, other.IsIdle) ∧ update.Gives value ∧ Text.unquote value ≠ "" ∧
        held.text = quoted value := by
  induction updates generalizing c with
  | nil => exact .inl ⟨fun _ h => absurd h List.not_mem_nil, h⟩
  | cons update updates ih =>
    obtain ⟨hIdle, hHeld⟩ | ⟨before, last, after, value, rfl, hLast⟩ := ih h
    · by_cases hFirst : update.IsIdle
      · rw [apply_of_isIdle hFirst] at hHeld
        exact .inl ⟨List.forall_mem_cons.mpr ⟨hFirst, hIdle⟩, hHeld⟩
      · obtain ⟨value, hGives⟩ := exists_gives hFirst hHeld
        exact .inr ⟨[], update, updates, value, rfl, hIdle, hGives⟩
    · exact .inr ⟨update :: before, last, after, value, rfl, hLast⟩

end Update

/-- **A held cookie stands in quotes unless its value had one in front and none at its end.** After
any updates, what a client shows is the last value that it was given, without a pair of quotes
around it. It holds and sends this in quotes exactly if the value did not begin with a quote or
stood in quotes itself; otherwise it holds and sends the value as it was given. -/
theorem held_of_updates (updates : List Update) {held : HeldCookie}
    (h : (Update.applyAll updates).held = some held) :
    ∃ before update after value, updates = before ++ update :: after ∧ update.Gives value ∧
      (∀ other ∈ after, other.IsIdle) ∧ Text.unquote value ≠ "" ∧
      (Update.applyAll updates).value? = some (Text.unquote value) ∧
      (InQuotes held.text ↔ (value.toList.head? = some '"' → InQuotes value)) ∧
      (InQuotes held.text → held.text = "\"" ++ Text.unquote value ++ "\"" ∧
        (Headers.Admits held.text → (Update.applyAll updates).field? =
          some (Text.Utf8.encode ("auth=\"" ++ Text.unquote value ++ "\"")))) ∧
      (¬ InQuotes held.text → held.text = value ∧
        (Headers.Admits held.text → (Update.applyAll updates).field? =
          some (Text.Utf8.encode ("auth=" ++ value)))) := by
  obtain ⟨-, hNone⟩ | ⟨before, update, after, value, hUpdates, hIdle, hGives, hBlank, hText⟩ :=
    Update.foldl_apply_cases h
  · cases hNone
  · have hShown : (Update.applyAll updates).value? = some (Text.unquote value) := by
      rw [value?, h, Option.map_some, hText, unquote_quoted_value]
    refine ⟨before, update, after, value, hUpdates, hGives, hIdle, hBlank, hShown, ?_, ?_, ?_⟩
    · rw [hText]
      exact inQuotes_quoted_iff
    · intro hQuotes
      have hInner : held.text = "\"" ++ Text.unquote value ++ "\"" := by
        rw [← unquote_quoted_value, ← hText]
        exact eq_quotes_unquote hQuotes
      refine ⟨hInner, ?_⟩
      intro hAdmits
      rw [field?_of_admits h hAdmits, hInner, ← String.append_assoc, ← String.append_assoc]
      rfl
    · intro hNotQuoted
      have hWhole : held.text = value := by
        rw [hText] at hNotQuoted ⊢
        exact quoted_of_not_inQuotes hNotQuoted
      refine ⟨hWhole, ?_⟩
      intro hAdmits
      rw [field?_of_admits h hAdmits, hWhole]

/-- A cookie without quotes replaces another one and is sent in quotes, also after an answer that
does not set it. -/
theorem held_of_updates_plain :
    let updates : List Update := [.set (some "\"u=ann\""),
      .answer 0 (.ofTexts [("set-cookie", "Auth=u=bob; Max-Age=60"), ("set-cookie", "=ann")]),
      .answer 0 (.ofTexts [("set-cookie", "author=\"ann")])]
    let held : HeldCookie := { text := "\"u=bob\"", lifetime := some 54 }
    (Update.applyAll updates).held = some held ∧ Headers.Admits held.text ∧
    (Update.applyAll updates).value? = some "u=bob" ∧
    (Update.applyAll updates).field? = some (Text.Utf8.encode "auth=\"u=bob\"") := by
  intro updates held
  have hHeld : (Update.applyAll updates).held = some held := by decide +kernel
  have hAdmits : Headers.Admits held.text := by decide
  have hQuotes : InQuotes held.text := ⟨"u=bob", by decide⟩
  obtain ⟨-, -, -, value, -, -, -, -, hValue, -, hInQuotes, -⟩ := held_of_updates updates hHeld
  obtain ⟨hText, hField⟩ := hInQuotes hQuotes
  have hInner : Text.unquote value = "u=bob" := by
    rw [← Text.unquote_quoted (Text.unquote value), ← hText]
    decide
  refine ⟨hHeld, hAdmits, ?_, ?_⟩
  · rw [hValue, hInner]
  · rw [hField hAdmits, hInner]
    rfl

/-- A value that was cut at a semicolon is held and sent with the quote in front of it alone. -/
theorem held_of_updates_cut :
    let updates : List Update :=
      [.answer 0 (.ofTexts [("set-cookie", "auth=\"u=a;b\"; HttpOnly")])]
    (Update.applyAll updates).held = some { text := "\"u=a" } ∧ ¬ InQuotes "\"u=a" ∧
    (Update.applyAll updates).value? = some "\"u=a" ∧
    (Update.applyAll updates).field? = some (Text.Utf8.encode "auth=\"u=a") := by
  intro updates
  refine ⟨by decide +kernel, ?_, by decide +kernel, by decide +kernel⟩
  rintro ⟨inner, hQuotes⟩
  have hInner : "\"u=a" = inner := by
    rw [← Text.unquote_quoted inner, ← hQuotes]
    decide
  subst hInner
  exact absurd hQuotes (by decide)

end SessionCookie

end SignOn
