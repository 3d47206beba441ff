import Mathlib.Tactic.Common
import SignOn.Endpoint.Directory
import SignOn.Proofs.Endpoint.SessionCookie

/-!
# What a refused client is told

A request that neither its session cookie nor the handler vouches for does not pass. The client is
then told what the handler says (`Gate.Told`): its challenge, or that the request is forbidden if
the handler fails or if there is no scheme to answer 401 with. If the request came with a cookie
that shows nothing (`Gate.Discredited`), the answer also clears it, so that the client does not come
back with it for ever; otherwise nothing is added (`Gate.refusal`).
-/

namespace SignOn

open SignOn.Http (Headers Request IsPlain)

/-! ## Cookies that are no good -/

/-- A text is signed with a secret in effect. -/
def Keyring.Signed (keys : Keyring) (payload signed : String) : Prop :=
  ∃ secret, (secret = keys.current ∨ keys.previous = some secret) ∧
    signed = payload ++ Signature.mark ++ Signature.code secret payload

theorem Keyring.signed_iff {keys : Keyring} {payload signed : String} :
    keys.Signed payload signed ↔ Signature.verify keys signed = .ok payload := by
  simp only [Keyring.Signed, ← Keyring.mem_secrets, Signature.verify_eq_ok_iff]

theorem Keyring.Signed.unique {keys : Keyring} {payload payload' signed : String}
    (h : keys.Signed payload signed) (h' : keys.Signed payload' signed) : payload = payload' := by
  rw [Keyring.signed_iff] at h h'
  exact Except.ok.inj (h.symm.trans h')

namespace Gate

/-- What can be wrong with the text of a session cookie. -/
inductive Flawed (g : Gate) (keys : Keyring) (now : Int64) (signed : String) : Prop
  | unsigned (hNone : ∀ payload, ¬ keys.Signed payload signed)
  | malformed {payload : String} (hSigned : keys.Signed payload signed)
      (hNone : ∀ token, Token.parse payload ≠ .ok token)
  | foreign {payload : String} {token : Token} (hSigned : keys.Signed payload signed)
      (hParse : Token.parse payload = .ok token) (hKind : token.kind ∉ g.handler.tokenKinds)
  | expired {payload : String} {token : Token} (hSigned : keys.Signed payload signed)
      (hParse : Token.parse payload = .ok token)
      (hPast : token.maxInactive ≠ -1 ∧ token.maxInactive < now ∨
        token.expires ≠ -1 ∧ token.expires < now)

/-- A request comes with a session cookie that is no good: something is wrong with the value of the
first readable one, without one pair of quotes. -/
def Discredited (g : Gate) (keys : Keyring) (now : Int64) (request : Request) : Prop :=
  ∃ value signed,
    Http.Cookie.IsFirst request.headers SessionPolicy.cookieName value ∧
    (value = "\"" ++ signed ++ "\"" ∨
      (∀ inner, value ≠ "\"" ++ inner ++ "\"") ∧ value = signed) ∧
    g.Flawed keys now signed

end Gate

/-- A cookie that takes the place of the session cookies of a policy and is gone at once. -/
structure SessionPolicy.Clears (p : SessionPolicy) (cookie : Http.Cookie) : Prop where
  name : cookie.name = SessionPolicy.cookieName
  value : cookie.value = ""
  maxAge : cookie.maxAge = some 0
  path : cookie.path = p.path
  domain : cookie.domain = p.domain

theorem SessionPolicy.clears_clearing (p : SessionPolicy) (secure : Bool) :
    p.Clears (p.clearing secure) := ⟨rfl, rfl, rfl, rfl, rfl⟩

/-- A client reads such a cookie as one without a value and without time left, and with the name,
the path and the domain that it has read in every session cookie of the policy. -/
theorem SessionPolicy.Clears.parse?_text {p : SessionPolicy} {cookie : Http.Cookie}
    (h : p.Clears cookie) (hPath : ∀ s, p.path = some s → IsPlain s)
    (hDomain : ∀ d, p.domain = some d → IsPlain d) :
    ∃ read, Http.Cookie.parse? cookie.text = some read ∧ read.value = "" ∧
      read.maxAge = some 0 ∧
      ∀ signed deadline secure now,
        let session := (p.cookie signed deadline secure now).reread
        read.name = session.name ∧ read.path = session.path ∧ read.domain = session.domain := by
  have hPair : cookie.pairText = "auth=" := by
    simp [Http.Cookie.pairText, h.name, h.value, SessionPolicy.cookieName]
  refine ⟨cookie.reread, Http.Cookie.parse?_text ?_ ?_ ?_, h.value, ?_, ?_⟩
  · rw [hPair, h.name, h.value]
    decide
  · rw [hPair]
    decide
  · apply Http.Cookie.isPlain_of_mem_attributes
    · rw [h.path]
      exact hPath
    · rw [h.domain]
      exact hDomain
  · rw [Http.Cookie.reread, h.maxAge]
    rfl
  · intro signed deadline secure now session
    refine ⟨h.name, ?_, ?_⟩
    · rw [Http.Cookie.reread, h.path]
      rfl
    · rw [Http.Cookie.reread, h.domain]
      rfl

theorem Token.isExpired_eq_true_iff {t : Token} {now : Int64} :
    t.isExpired now = true ↔
      t.maxInactive ≠ -1 ∧ t.maxInactive < now ∨ t.expires ≠ -1 ∧ t.expires < now := by
  simp [isExpired, isPast]

namespace Gate

variable {g : Gate} {keys : Keyring} {now : Int64} {request : Request} {signed : String}

theorem flawed_of_tokenOf?_eq_none (h : g.tokenOf? keys now signed = none) :
    g.Flawed keys now signed := by
  cases hVerify : Signature.verify keys signed with
  | error e =>
    refine .unsigned fun payload hSigned => ?_
    rw [Keyring.signed_iff, hVerify] at hSigned
    cases hSigned
  | ok payload =>
    have hSigned : keys.Signed payload signed := Keyring.signed_iff.mpr hVerify
    cases hParse : Token.parse payload with
    | error e =>
      refine .malformed hSigned fun token hToken => ?_
      rw [hParse] at hToken
      cases hToken
    | ok token =>
      by_cases hKind : token.kind ∈ g.handler.tokenKinds
      · refine .expired hSigned hParse (Token.isExpired_eq_true_iff.mp ?_)
        refine Decidable.byContradiction fun hGood => ?_
        have hSome := tokenOf?_eq_some_iff.mpr
          ⟨payload, hVerify, hParse, hKind, by simpa using hGood⟩
        rw [h] at hSome
        cases hSome
      · exact .foreign hSigned hParse hKind

theorem Flawed.tokenOf?_eq_none (h : g.Flawed keys now signed) :
    g.tokenOf? keys now signed = none := by
  rw [Option.eq_none_iff_forall_ne_some]
  intro found hFound
  obtain ⟨payload, hVerify, hParse, hKind, hGood⟩ := tokenOf?_eq_some_iff.mp hFound
  have hSigned := Keyring.signed_iff.mpr hVerify
  cases h with
  | unsigned hNone => exact hNone payload hSigned
  | malformed hOther hNone =>
    rw [hSigned.unique hOther] at hParse
    exact hNone found hParse
  | foreign hOther hParse' hForeign =>
    rw [hSigned.unique hOther, hParse'] at hParse
    cases hParse
    exact hForeign hKind
  | expired hOther hParse' hPast =>
    rw [hSigned.unique hOther, hParse'] at hParse
    cases hParse
    rw [Token.isExpired_eq_true_iff.mpr hPast] at hGood
    cases hGood

/-- The gate takes a session cookie as no good exactly if something is wrong with it. -/
theorem presented_eq_rejected_iff :
    g.presented keys now request = .rejected ↔ g.Discredited keys now request := by
  have hRejected : g.presented keys now request = .rejected ↔
      ∃ value, Http.Cookie.value? request.headers SessionPolicy.cookieName = some value ∧
        g.tokenOf? keys now (Text.unquote value) = none := by
    unfold presented
    cases Http.Cookie.value? request.headers SessionPolicy.cookieName with
    | none => simp
    | some value =>
      simp only [Option.some.injEq, exists_eq_left']
      cases g.tokenOf? keys now (Text.unquote value) <;> simp
  rw [hRejected]
  constructor
  · rintro ⟨value, hValue, hNone⟩
    exact ⟨value, _, Http.Cookie.value?_eq_some_iff.mp hValue, Text.unquote_eq_iff.mp rfl,
      flawed_of_tokenOf?_eq_none hNone⟩
  · rintro ⟨value, signed, hFirst, hQuotes, hFlawed⟩
    refine ⟨value, Http.Cookie.value?_eq_some_iff.mpr hFirst, ?_⟩
    rw [Text.unquote_eq_iff.mpr hQuotes]
    exact hFlawed.tokenOf?_eq_none

/-! ## What the handler says -/

/-- What a client is told when the handler does not authenticate its request. -/
inductive Told : Result Outcome → Challenge → Prop
  | failed (e : Error) : Told (.error e) { status := 403 }
  | answerable {c : Challenge}
      (h : c.status = 401 → c.headers.has Http.challengeField = true) : Told (.ok (.challenge c)) c
  | unanswerable {c : Challenge} (hStatus : c.status = 401)
      (hNone : c.headers.has Http.challengeField = false) :
      Told (.ok (.challenge c)) { c with status := 403 }

theorem told_challenge_iff {said told : Challenge} :
    Told (.ok (.challenge said)) told ↔ told = shown said := by
  constructor
  · intro h
    cases h with
    | answerable hScheme =>
      rw [shown, if_neg]
      intro hNone
      rw [hScheme hNone.1] at hNone
      cases hNone.2
    | unanswerable hStatus hNone => rw [shown, if_pos ⟨hStatus, hNone⟩]
  · intro h
    subst h
    unfold shown
    split
    · rename_i h
      exact .unanswerable h.1 h.2
    · rename_i h
      apply Told.answerable
      intro hStatus
      simpa [hStatus] using h

/-! ## The answer -/

variable {secure rejected : Bool} {c told : Challenge} {outcome : Result Outcome}
  {authorities : Authorities}

theorem refuse_true_iff :
    g.refuse secure true told = .ok (.respond c) ↔
      g.policy.Writable ∧ c = told.withField Http.setCookieField
        (Text.Utf8.encode (g.policy.clearing secure).text) := by
  have hWritable : Headers.Admits (g.policy.clearing secure).text ↔ g.policy.Writable := by
    have hPair : Headers.Admits (g.policy.clearing secure).pairText := by
      simp only [Http.Cookie.pairText, SessionPolicy.clearing]
      decide
    have hParts : Headers.Admits (g.policy.clearing secure).text ↔
        Headers.Admits (g.policy.clearing secure).pairText ∧ g.policy.Writable :=
      SessionPolicy.admits_cookie_iff rfl rfl
    rw [hParts, and_iff_right hPair]
  unfold refuse
  simp only [if_true, bind_eq_ok_iff, cookieField_eq_ok_iff, hWritable]
  constructor
  · rintro ⟨field, ⟨hPolicy, rfl⟩, h⟩
    cases h
    exact ⟨hPolicy, rfl⟩
  · rintro ⟨hPolicy, rfl⟩
    exact ⟨_, ⟨hPolicy, rfl⟩, rfl⟩

theorem refuse_false_iff : g.refuse secure false told = .ok (.respond c) ↔ c = told := by
  simp [refuse, eq_comm]

theorem welcome_ne_respond {seen : Token} {fields : Headers} :
    g.welcome keys now secure seen fields ≠ .ok (.respond c) := by
  intro h
  unfold welcome at h
  split at h
  · cases h
  · obtain ⟨written, -, h⟩ := bind_eq_ok_iff.mp h
    cases h

theorem resume_ne_respond {seen : Token} :
    g.resume keys now secure seen ≠ .ok (.respond c) := by
  intro h
  unfold resume at h
  split at h
  · obtain ⟨written, -, h⟩ := bind_eq_ok_iff.mp h
    cases h
  · cases h

theorem decide_respond_iff :
    g.decide keys now secure rejected outcome = .ok (.respond c) ↔
      ∃ told, Told outcome told ∧ g.refuse secure rejected told = .ok (.respond c) := by
  cases outcome with
  | error e =>
    constructor
    · intro h
      exact ⟨_, .failed e, h⟩
    · rintro ⟨told, hTold, h⟩
      cases hTold
      exact h
  | ok o =>
    cases o with
    | authenticated token headers =>
      apply iff_of_false welcome_ne_respond
      rintro ⟨told, hTold, -⟩
      cases hTold
    | challenge said => simp only [decide, told_challenge_iff, exists_eq_left]

/-- Which requests are answered, and how. -/
theorem check_respond_iff :
    (g.check keys now request).run authorities = .ok (.respond c) ↔
      (∀ token, ¬ g.Vouched keys now request token) ∧
        ∃ told, Told ((g.handler.authenticate request).run authorities) told ∧
          (g.Discredited keys now request ∧ g.policy.Writable ∧
              c = told.withField Http.setCookieField
                (Text.Utf8.encode (g.policy.clearing request.target.isSecure).text) ∨
            ¬ g.Discredited keys now request ∧ c = told) := by
  simp only [← presented_eq_valid_iff, ← presented_eq_rejected_iff, check]
  cases g.presented keys now request with
  | absent => simp [Attempt.run_andThen, decide_respond_iff, refuse_false_iff]
  | rejected => simp [Attempt.run_andThen, decide_respond_iff, refuse_true_iff]
  | valid token => simp [Attempt.run, resume_ne_respond]

theorem Told.has_challenge (h : Told outcome told) (hStatus : told.status = 401) :
    told.headers.has Http.challengeField = true := by
  cases h with
  | failed e => cases hStatus
  | answerable hScheme => exact hScheme hStatus
  | unanswerable _ hNone => cases hStatus

theorem exists_told_iff :
    (∃ told, Told outcome told) ↔
      ∀ token headers, outcome ≠ .ok (.authenticated token headers) := by
  constructor
  · intro h token headers hOutcome
    obtain ⟨told, hTold⟩ := h
    rw [hOutcome] at hTold
    cases hTold
  · intro h
    cases outcome with
    | error e => exact ⟨_, .failed e⟩
    | ok o =>
      cases o with
      | authenticated token headers => exact absurd rfl (h token headers)
      | challenge said => exact ⟨_, told_challenge_iff.mpr rfl⟩

/-- **What a refused client is told.** A request is answered right away if and only if no cookie
vouches for anybody, the handler does not authenticate it, and if there is a cookie to be cleared,
the policy lets cookies be written. Status and fields are those that the handler wants, in their
order, except that a failure and a 401 without a scheme become 403. One more field behind them
clears the session cookie exactly if the request came with one that is no good. -/
theorem refusal (g : Gate) (authorities : Authorities) (keys : Keyring) (now : Int64)
    (request : Request) :
    ((∃ c, (g.check keys now request).run authorities = .ok (.respond c)) ↔
      (∀ token, ¬ g.Vouched keys now request token) ∧
      (∀ token headers, (g.handler.authenticate request).run authorities ≠
        .ok (.authenticated token headers)) ∧
      (g.Discredited keys now request → g.policy.Writable)) ∧
    ∀ c, (g.check keys now request).run authorities = .ok (.respond c) →
      (c.status = 401 → c.headers.has Http.challengeField = true) ∧
      ∃ told, Told ((g.handler.authenticate request).run authorities) told ∧
        c.status = told.status ∧
        (g.Discredited keys now request → ∃ cookie, g.policy.Clears cookie ∧
          c.headers = told.headers.append Http.setCookieField (Text.Utf8.encode cookie.text)) ∧
        (¬ g.Discredited keys now request → c.headers = told.headers) := by
  constructor
  · rw [← exists_told_iff]
    constructor
    · rintro ⟨c, h⟩
      obtain ⟨hNone, told, hTold, hAnswer⟩ := check_respond_iff.mp h
      refine ⟨hNone, ⟨told, hTold⟩, fun hBad => ?_⟩
      rcases hAnswer with ⟨-, hPolicy, -⟩ | ⟨hGood, -⟩
      · exact hPolicy
      · exact absurd hBad hGood
    · rintro ⟨hNone, ⟨told, hTold⟩, hPolicy⟩
      by_cases hBad : g.Discredited keys now request
      · exact ⟨_, check_respond_iff.mpr ⟨hNone, told, hTold, .inl ⟨hBad, hPolicy hBad, rfl⟩⟩⟩
      · exact ⟨told, check_respond_iff.mpr ⟨hNone, told, hTold, .inr ⟨hBad, rfl⟩⟩⟩
  · intro c h
    obtain ⟨-, told, hTold, hAnswer⟩ := check_respond_iff.mp h
    rcases hAnswer with ⟨hBad, -, rfl⟩ | ⟨hGood, rfl⟩
    · refine ⟨fun hStatus => ?_, told, hTold, rfl, fun _ => ?_, fun hGood => absurd hBad hGood⟩
      · have hScheme := hTold.has_challenge hStatus
        rw [Headers.has] at hScheme
        rw [Challenge.withField, Headers.append, Headers.has, List.any_append, hScheme,
          Bool.true_or]
      · exact ⟨_, g.policy.clears_clearing _, rfl⟩
    · exact ⟨hTold.has_challenge, c, hTold, rfl, fun hBad => absurd hBad hGood, fun _ => rfl⟩

/-- A client with a forged cookie is asked for a password, and the cookie is cleared. -/
theorem refusal_forged :
    let keys : Keyring := ⟨Text.Utf8.encode "secret", none⟩
    let g : Gate := {
      handler := DirectoryHandler.handler { url := "ldap://localhost", naming := .domain "site" }
      policy := { path := some "/app" } }
    let request := sending "auth=\"u=eve&p=eve&t=ldap&e=-1&s=Zm9yZ2Vk\""
    let c : Challenge := ⟨401, .ofTexts [(Http.challengeField, "Basic"),
      (Http.setCookieField, "auth=; HttpOnly; Path=/app; Max-Age=0")]⟩
    (g.check keys 0 request).run .silent = .ok (.respond c) ∧ g.Discredited keys 0 request ∧
      c.headers.has Http.challengeField = true ∧
      ∃ told cookie, Told ((g.handler.authenticate request).run .silent) told ∧
        g.policy.Clears cookie ∧
        c.headers = told.headers.append Http.setCookieField (Text.Utf8.encode cookie.text) := by
  intro keys g request c
  have hRejected : g.presented keys 0 request = .rejected := by decide +kernel
  have hBad : g.Discredited keys 0 request := presented_eq_rejected_iff.mp hRejected
  have hCheck : (g.check keys 0 request).run .silent = .ok (.respond c) := by
    simp only [check, hRejected]
    decide +kernel
  obtain ⟨hScheme, told, hTold, -, hCleared, -⟩ := (refusal g .silent keys 0 request).2 c hCheck
  obtain ⟨cookie, hCookie, hHeaders⟩ := hCleared hBad
  exact ⟨hCheck, hBad, hScheme rfl, told, cookie, hTold, hCookie, hHeaders⟩

end Gate

end SignOn
