import SignOn.Proofs.Endpoint.Lifetime
import SignOn.Proofs.Endpoint.Refusal
import SignOn.Proofs.Session.RoundTrip

/-!
# Access without a user

A handler may let a request pass as nobody. Nobody is a single token: whatever is put together or
read names a user, and deadlines neither change that nor the anonymous token
(`Token.Reachable.isAnonymous_iff`). A gate keeps to this wherever a cookie plays a part. No cookie
vouches for nobody; a request that passes as nobody passes with what the handler adds and nothing
else; and whatever the gate adds itself is a cookie that clears, or the session cookie of a user
(`Gate.nobody_has_no_session`).
-/

namespace SignOn

open SignOn.Http (Headers Request)

/-! ## Tokens -/

namespace Token

/-- The tokens that a program can come by: those that can be had, and the anonymous one, each with
any deadlines set. -/
inductive Reachable : Token → Prop
  | anonymous : Reachable .anonymous
  | made {user principal kind : String} {t : Token} (h : make user principal kind = .ok t) :
      Reachable t
  | read {s : String} {t : Token} (h : parse s = .ok t) : Reachable t
  | expiring {t : Token} (h : Reachable t) (deadline : Int64) : Reachable (t.setExpires deadline)
  | idling {t : Token} (h : Reachable t) (deadline : Int64) : Reachable (t.setMaxInactive deadline)

variable {t : Token}

theorem setExpires_anonymous (deadline : Int64) :
    Token.anonymous.setExpires deadline = .anonymous := rfl

theorem setMaxInactive_anonymous (deadline : Int64) :
    Token.anonymous.setMaxInactive deadline = .anonymous := rfl

theorem Reachable.eq_anonymous_or_wellFormed (h : Reachable t) :
    t = .anonymous ∨ t.WellFormed := by
  induction h with
  | anonymous => exact .inl rfl
  | made h => exact .inr (make_eq_ok_iff.mp h).2
  | read h => exact .inr (wellFormed_of_parse h)
  | expiring _ deadline ih =>
    rcases ih with rfl | ih
    · exact .inl (setExpires_anonymous deadline)
    · exact .inr (ih.setExpires deadline)
  | idling _ deadline ih =>
    rcases ih with rfl | ih
    · exact .inl (setMaxInactive_anonymous deadline)
    · exact .inr (ih.setMaxInactive deadline)

theorem Reachable.isAnonymous_iff (h : Reachable t) : t.isAnonymous = true ↔ t = .anonymous := by
  constructor
  · intro hNobody
    refine h.eq_anonymous_or_wellFormed.resolve_right fun hForm => ?_
    rw [hForm.isAnonymous_eq_false] at hNobody
    cases hNobody
  · rintro rfl
    rfl

/-- A token without a user has no text form, so there is nothing to sign. -/
theorem sign_of_isAnonymous (h : t.isAnonymous = true) (keys : Keyring) :
    Signature.sign keys t.encode = .error ⟨.signature .nothingToSign, none⟩ := by
  have hText : t.encode = t.text := t.isCurrent
  rw [hText, TokenState.text, if_pos h]
  rfl

end Token

/-! ## What a gate adds -/

/-- The fields that a handler wants in the answer. -/
def Outcome.fields : Result Outcome → Headers
  | .ok (.authenticated _ headers) => headers
  | .ok (.challenge c) => c.headers
  | .error _ => {}

namespace Gate

/-- What a request can come to at a gate, where the handler wants these fields in the answer. They
stay alone; or a cookie that clears is added to an answer, or the session cookie of a user who
passes; or such a cookie cannot be written. -/
inductive Ends (g : Gate) (keys : Keyring) (now : Int64) (secure : Bool) (own : Headers) :
    Result Decision → Prop
  | alone {decision : Decision} (h : decision.headers = own) :
      Ends g keys now secure own (.ok decision)
  | clearing {c : Challenge} {cookie : Http.Cookie} (hClears : g.policy.Clears cookie)
      (h : c.headers = own.append Http.setCookieField (Text.Utf8.encode cookie.text)) :
      Ends g keys now secure own (.ok (.respond c))
  | session {token : Token} {headers : Headers} (hNamed : token.isAnonymous = false)
      (h : headers = own.append Http.setCookieField
        (Text.Utf8.encode (g.sessionCookie keys now secure token).text)) :
      Ends g keys now secure own (.ok (.proceed token headers))
  | unwritable : Ends g keys now secure own (.error ⟨.configuration .badCookieText, none⟩)

variable {g : Gate} {keys : Keyring} {now : Int64} {secure : Bool} {request : Request}
  {token seen : Token} {own : Headers}

theorem cookieField_error {cookie : Http.Cookie} {e : Error} (h : cookieField cookie = .error e) :
    e = ⟨.configuration .badCookieText, none⟩ := by
  unfold cookieField at h
  split at h
  · cases h
  · cases h
    rfl

/-- A token that names a user is signed, and its cookie is issued if it can be written. -/
theorem issue_ends (hNamed : token.isAnonymous = false) :
    g.Ends keys now secure own (do
      let headers ← g.issue keys now secure token own
      .ok (.proceed token headers)) := by
  rw [issue_of_named hNamed]
  cases hField : cookieField (g.sessionCookie keys now secure token) with
  | error e =>
    rw [cookieField_error hField]
    exact .unwritable
  | ok field => exact .session hNamed (by rw [(cookieField_eq_ok_iff.mp hField).2])

theorem resume_ends (hSeen : seen.isAnonymous = false) :
    g.Ends keys now secure {} (g.resume keys now secure seen) := by
  unfold resume
  split
  · have hSame := g.policy.sameUser_refresh seen now
    exact issue_ends ((Token.isAnonymous_of_sameUser hSame).trans hSeen)
  · exact .alone rfl

theorem welcome_ends (seen : Token) (own : Headers) :
    g.Ends keys now secure own (g.welcome keys now secure seen own) := by
  unfold welcome
  split
  · exact .alone rfl
  · rename_i hNamed
    rw [Bool.not_eq_true] at hNamed
    have hSame := (g.policy.sameUser_refresh (seen.setExpires (g.policy.expiry now)) now).trans
      (seen.sameUser_setExpires _)
    exact issue_ends ((Token.isAnonymous_of_sameUser hSame).trans hNamed)

theorem refuse_ends (rejected : Bool) (told : Challenge) :
    g.Ends keys now secure told.headers (g.refuse secure rejected told) := by
  unfold refuse
  cases rejected with
  | false => exact .alone rfl
  | true =>
    simp only [if_true]
    cases hField : cookieField (g.policy.clearing secure) with
    | error e =>
      rw [cookieField_error hField]
      exact .unwritable
    | ok field =>
      rw [(cookieField_eq_ok_iff.mp hField).2]
      exact .clearing (g.policy.clears_clearing secure) rfl

theorem shown_headers (c : Challenge) : (shown c).headers = c.headers := by
  unfold shown
  split <;> rfl

theorem decide_ends (rejected : Bool) (outcome : Result Outcome) :
    g.Ends keys now secure (Outcome.fields outcome)
      (g.decide keys now secure rejected outcome) := by
  cases outcome with
  | error e => exact refuse_ends rejected { status := 403 }
  | ok o =>
    cases o with
    | authenticated seen fields => exact welcome_ends seen fields
    | challenge c =>
      rw [Outcome.fields, ← shown_headers]
      exact refuse_ends rejected _

theorem Vouched.isAnonymous_eq_false (h : g.Vouched keys now request token) :
    token.isAnonymous = false :=
  h.wellFormed.1.isAnonymous_eq_false

/-- A request passes as nobody only if the handler says so, and then just as the handler says. -/
theorem authenticated_of_nobody {authorities : Authorities} {headers : Headers}
    (hCheck : (g.check keys now request).run authorities = .ok (.proceed token headers))
    (hNobody : token.isAnonymous = true) :
    (g.handler.authenticate request).run authorities = .ok (.authenticated token headers) := by
  obtain ⟨seen, hSeen, hRun⟩ | ⟨-, rejected, hRun⟩ := check_run_cases g authorities keys now request
  · rw [hRun] at hCheck
    rw [Token.isAnonymous_of_sameUser (resume_proceed hCheck).1, hSeen.isAnonymous_eq_false]
      at hNobody
    cases hNobody
  · rw [hRun] at hCheck
    obtain ⟨seen, fields, hOutcome, hSame⟩ := decide_proceed hCheck
    rw [Token.isAnonymous_of_sameUser hSame] at hNobody
    rw [hOutcome, decide, welcome, if_pos hNobody] at hCheck
    cases hCheck
    exact hOutcome

/-- **Nobody has no session.** A token that a program can come by names nobody exactly if it is the
anonymous one; deadlines do not change that token, and no text is read as it. A cookie vouches for a
user. A request that passes as nobody does so with the token and the fields of the handler. Whatever
a request comes to, a gate adds no field but a cookie that clears or the session cookie of a user;
it fails only if such a cookie cannot be written, while signing a token without a user fails
otherwise, so it is never tried. -/
theorem nobody_has_no_session (g : Gate) (authorities : Authorities) (keys : Keyring) (now : Int64)
    (request : Request) :
    (∀ t, Token.Reachable t → (t.isAnonymous = true ↔ t = .anonymous)) ∧
    (∀ deadline, Token.anonymous.setExpires deadline = .anonymous ∧
      Token.anonymous.setMaxInactive deadline = .anonymous) ∧
    (∀ s t, Token.parse s = .ok t → t.isAnonymous = false) ∧
    (∀ token, g.presented keys now request = .valid token → token.isAnonymous = false) ∧
    (∀ token headers, (g.check keys now request).run authorities = .ok (.proceed token headers) →
      token.isAnonymous = true →
      (g.handler.authenticate request).run authorities = .ok (.authenticated token headers)) ∧
    (∃ own,
      ((∃ seen, g.Vouched keys now request seen) ∧ own = {} ∨
        (∀ seen, ¬ g.Vouched keys now request seen) ∧
          own = Outcome.fields ((g.handler.authenticate request).run authorities)) ∧
      g.Ends keys now request.target.isSecure own ((g.check keys now request).run authorities)) ∧
    ∀ t : Token, t.isAnonymous = true →
      Signature.sign keys t.encode = .error ⟨.signature .nothingToSign, none⟩ := by
  refine ⟨fun t h => h.isAnonymous_iff, fun deadline => ⟨rfl, rfl⟩, ?_, ?_, ?_, ?_, ?_⟩
  · intro s t h
    exact (Token.wellFormed_of_parse h).isAnonymous_eq_false
  · intro token h
    exact (presented_eq_valid_iff.mp h).isAnonymous_eq_false
  · intro token headers h hNobody
    exact authenticated_of_nobody h hNobody
  · obtain ⟨seen, hSeen, hRun⟩ | ⟨hNone, rejected, hRun⟩ :=
      check_run_cases g authorities keys now request
    · refine ⟨{}, .inl ⟨⟨seen, hSeen⟩, rfl⟩, ?_⟩
      rw [hRun]
      exact resume_ends hSeen.isAnonymous_eq_false
    · refine ⟨_, .inr ⟨hNone, rfl⟩, ?_⟩
      rw [hRun]
      exact decide_ends rejected _
  · intro t h
    exact Token.sign_of_isAnonymous h keys

/-- A gate that lets requests without a name pass. -/
def lenient : Gate where
  handler := PseudoHandler.handler { anonymousAllowed := true }
  policy := { maxInactive := some (.ofSeconds 60) }

/-- A request without a name passes as nobody and gets no cookie, although its own is no good.
Deadlines do not make a user of nobody; a text that can be read names one. -/
theorem nobody_has_no_session_nameless :
    let nameless : Request :=
      { target := { path := "/" }, headers := .ofTexts [(Http.cookieField, "auth=x")] }
    (lenient.check .rotatedOnce 5 nameless).run .silent = .ok (.proceed .anonymous {}) ∧
    (lenient.handler.authenticate nameless).run .silent = .ok (.authenticated .anonymous {}) ∧
    ((Token.anonymous.setExpires 5).setMaxInactive 7).isAnonymous = true ∧
    (∃ t, Token.parse "u=ann&p=ann&t=simple&e=9" = .ok t ∧ t.isAnonymous = false) := by
  intro nameless
  have hPass : (lenient.check .rotatedOnce 5 nameless).run .silent =
      .ok (.proceed .anonymous {}) := rfl
  obtain ⟨hNobody, -, hRead, -, hHandler, -⟩ :=
    nobody_has_no_session lenient .silent .rotatedOnce 5 nameless
  refine ⟨hPass, hHandler _ _ hPass rfl, ?_, ?_⟩
  · exact (hNobody _ ((Token.Reachable.anonymous.expiring 5).idling 7)).mpr rfl
  · have hToken : Token.parse "u=ann&p=ann&t=simple&e=9" =
        .ok { user := "ann", principal := "ann", kind := "simple", expires := 9 } := rfl
    exact ⟨_, hToken, hRead _ _ hToken⟩

end Gate

end SignOn
