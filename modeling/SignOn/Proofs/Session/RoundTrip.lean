import SignOn.Proofs.Session.Signature
import SignOn.Proofs.Session.Token

/-!
# Tokens and their texts

A token is put together from its fields or read from a text, and may be given other deadlines
afterwards, any number of times. None of this makes a field empty or brings an ampersand into one,
and each of it writes the text of the token anew. So what was had in this way is the state of a
well-formed token, and the state of a well-formed token can be had, whatever its deadlines are
(`obtained_iff`).

`Obtained.round_trip` says what this gives: the text that such a token keeps stands for that token
and for no other, bare, in quotes and behind a signature.
-/

namespace SignOn

namespace Token

variable {t : Token}

/-- A token is the fresh one for its user with its deadlines set. -/
theorem eq_of_fresh {fresh : Token} (hFresh : fresh.isAnonymous = false)
    (hUser : fresh.user = t.user) (hPrincipal : fresh.principal = t.principal)
    (hKind : fresh.kind = t.kind) :
    (fresh.setExpires t.expires).setMaxInactive t.maxInactive = t := by
  have hExpires := toTokenState_setExpires hFresh t.expires
  have hNamed : (fresh.setExpires t.expires).isAnonymous = false := by
    rw [hExpires]
    exact hFresh
  have hBoth := toTokenState_setMaxInactive hNamed t.maxInactive
  rw [hExpires] at hBoth
  apply eq_of_fields <;> rw [hBoth]
  · exact hUser
  · exact hPrincipal
  · exact hKind
  · rfl
  · rfl

end Token

namespace TokenState

/-- The states of tokens that can be had. -/
inductive Obtained : TokenState → Prop
  | made {user principal kind : String} {s : TokenState} (h : make user principal kind = .ok s) :
      Obtained s
  | read {text : String} {s : TokenState} (h : parse text = .ok s) : Obtained s
  | expiring {s : TokenState} (h : Obtained s) (deadline : Int64) : Obtained (s.setExpires deadline)
  | idling {s : TokenState} (h : Obtained s) (deadline : Int64) :
      Obtained (s.setMaxInactive deadline)

variable {s : TokenState}

theorem Obtained.exists_token (h : Obtained s) :
    ∃ t : Token, t.WellFormed ∧ t.toTokenState = s := by
  induction h with
  | made h =>
    have hMade : Token.make _ _ _ = .ok ⟨_, isCurrent_of_make h⟩ := Token.ofState_eq_ok_iff.mpr h
    exact ⟨_, (Token.make_eq_ok_iff.mp hMade).2, rfl⟩
  | read h =>
    have hRead : Token.parse _ = .ok ⟨_, isCurrent_of_parse h⟩ := Token.ofState_eq_ok_iff.mpr h
    exact ⟨_, Token.wellFormed_of_parse hRead, rfl⟩
  | expiring _ deadline ih =>
    obtain ⟨t, hForm, rfl⟩ := ih
    exact ⟨t.setExpires deadline, hForm.setExpires deadline, rfl⟩
  | idling _ deadline ih =>
    obtain ⟨t, hForm, rfl⟩ := ih
    exact ⟨t.setMaxInactive deadline, hForm.setMaxInactive deadline, rfl⟩

/-- What can be had are the states of tokens with proper fields; the deadlines may be any. -/
theorem obtained_iff : Obtained s ↔ ∃ t : Token, t.WellFormed ∧ t.toTokenState = s := by
  constructor
  · intro h
    exact h.exists_token
  · rintro ⟨t, hForm, rfl⟩
    have hMade := make_eq_ok_iff.mpr ⟨rfl, hForm.user, hForm.principal, hForm.kind⟩
    let fresh : Token := ⟨_, isCurrent_of_make hMade⟩
    have hToken : (fresh.setExpires t.expires).setMaxInactive t.maxInactive = t :=
      Token.eq_of_fresh (isAnonymous_eq_false_of_make hMade) rfl rfl rfl
    rw [← hToken]
    exact ((Obtained.made hMade).expiring t.expires).idling t.maxInactive

/-- A text that is not in quotes means the same when it is put in quotes. -/
theorem parse_quoted {text : String} (h : Text.unquoteChars text.toList = text.toList) :
    parse ("\"" ++ text ++ "\"") = parse text := by
  have hQuoted := congrArg String.toList (Text.unquote_quoted text)
  rw [Text.unquote, String.toList_ofList] at hQuoted
  rw [parse, parse, hQuoted, h]

/-- **The text of a token is as good as the token.** Whatever token was had, with whatever
deadlines, the text that it keeps is that of its fields, so that no change of a deadline leaves an
old text behind. It is read as that token, which then keeps the same text, also in quotes; no other
token that can be had keeps it; and under any secrets it can be signed, is accepted as it was, and
then read as the token again. -/
theorem Obtained.round_trip (h : Obtained s) :
    s.encoded = s.attributeText ∧
      parse s.encoded = .ok s ∧
      parse ("\"" ++ s.encoded ++ "\"") = .ok s ∧
      (∀ other, Obtained other → other.encoded = s.encoded → other = s) ∧
      ∀ keys, ∃ signed payload, Signature.sign keys s.encoded = .ok signed ∧
        Signature.verify keys signed = .ok payload ∧ parse payload = .ok s := by
  have hParse : ∀ {s : TokenState}, Obtained s → parse s.encoded = .ok s := by
    intro s h
    obtain ⟨t, hForm, rfl⟩ := obtained_iff.mp h
    exact Token.ofState_eq_ok_iff.mp (Token.parse_encode hForm)
  have hRead := hParse h
  obtain ⟨t, hForm, rfl⟩ := obtained_iff.mp h
  have hText := Token.encode_of_named hForm.isAnonymous_eq_false
  refine ⟨hText, hRead, ?_, ?_, ?_⟩
  · exact (parse_quoted hForm.unquoteChars_encode).trans hRead
  · intro other hOther hSame
    have hReadOther := hParse hOther
    rw [hSame, hRead] at hReadOther
    exact (Except.ok.inj hReadOther).symm
  · intro keys
    have hSign := Signature.sign_of_ne (Token.encode_ne_empty hForm.isAnonymous_eq_false) keys
    have hMem : keys.current ∈ keys.secrets := List.mem_cons_self ..
    exact ⟨_, t.encode, hSign, Signature.verify_of_sign hSign hMem, hRead⟩

/-- A name that looks like an attribute, in quotes, and deadlines before the epoch. -/
theorem Obtained.round_trip_misleading :
    ∃ s, Obtained s ∧ s.encoded = "u=\"u=e=1\"&p=p=\"&t=simple&i=-7&e=-1" ∧
      parse "\"u=\"u=e=1\"&p=p=\"&t=simple&i=-7&e=-1\"" = .ok s := by
  have hMade : Obtained (generate { user := "\"u=e=1\"", principal := "p=\"", kind := "simple" }) :=
    .made (make_eq_ok_iff.mpr ⟨rfl, by decide, by decide, by decide⟩)
  have hToken := hMade.idling (-7)
  refine ⟨_, hToken, by decide, ?_⟩
  exact (round_trip hToken).2.2.1

end TokenState

end SignOn
