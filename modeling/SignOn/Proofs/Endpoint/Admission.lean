import Mathlib.Tactic.Common
import SignOn.Endpoint.Service
import SignOn.Proofs.Result
import SignOn.Proofs.Session.Signature

/-!
# Who passes a gate

A request passes a gate for two reasons only. Either its session cookie vouches for a user: it is
the first readable one, it is signed with a secret in effect, and it holds a token of an accepted
kind whose deadlines have not passed (`Gate.Vouched`). Then the handler plays no part. Or no cookie
vouches for anybody, and the handler has authenticated this very request. In both cases the service
is given the user who was found, and the service behind the gate is called once for each request
that passes and for no other (`Gate.admission_sound`).

Nothing is assumed of the handler and of the authorities that it asks.
-/

namespace SignOn

open SignOn.Http (Headers Request Response)

/-! ## The first cookie with a name -/

/-- `value` is that of the first readable cookie with a name. -/
def Http.Cookie.IsFirst (headers : Headers) (name value : String) : Prop :=
  ∃ earlier cookie later,
    (headers.texts Http.cookieField).flatMap Http.Cookie.sent = earlier ++ cookie :: later ∧
      cookie.name = name ∧ cookie.value = value ∧ ∀ c ∈ earlier, c.name ≠ name

theorem Http.Cookie.value?_eq_some_iff {headers : Headers} {name value : String} :
    Http.Cookie.value? headers name = some value ↔ Http.Cookie.IsFirst headers name value := by
  unfold Http.Cookie.value? Http.Cookie.IsFirst
  rw [Option.map_eq_some_iff]
  constructor
  · rintro ⟨cookie, hFind, hValue⟩
    obtain ⟨hName, earlier, later, hAll, hEarlier⟩ := List.find?_eq_some_iff_append.mp hFind
    refine ⟨earlier, cookie, later, hAll, by simpa using hName, hValue, ?_⟩
    intro c hc
    simpa using hEarlier c hc
  · rintro ⟨earlier, cookie, later, hAll, hName, hValue, hEarlier⟩
    refine ⟨cookie, List.find?_eq_some_iff_append.mpr ?_, hValue⟩
    refine ⟨by simpa using hName, earlier, later, hAll, ?_⟩
    intro c hc
    simpa using hEarlier c hc

/-! ## The user of a token -/

/-- Two tokens name the same user, authenticated in the same way. -/
def Token.SameUser (t s : Token) : Prop :=
  t.user = s.user ∧ t.principal = s.principal ∧ t.kind = s.kind

namespace Token

theorem SameUser.refl (t : Token) : t.SameUser t := ⟨rfl, rfl, rfl⟩

theorem SameUser.symm {t s : Token} (h : t.SameUser s) : s.SameUser t :=
  ⟨h.1.symm, h.2.1.symm, h.2.2.symm⟩

theorem SameUser.trans {t s r : Token} (h : t.SameUser s) (h' : s.SameUser r) : t.SameUser r :=
  ⟨h.1.trans h'.1, h.2.1.trans h'.2.1, h.2.2.trans h'.2.2⟩

theorem sameUser_setExpires (t : Token) (deadline : Int64) :
    (t.setExpires deadline).SameUser t := by
  unfold SameUser setExpires TokenState.setExpires
  dsimp only
  split <;> exact ⟨rfl, rfl, rfl⟩

theorem sameUser_setMaxInactive (t : Token) (deadline : Int64) :
    (t.setMaxInactive deadline).SameUser t := by
  unfold SameUser setMaxInactive TokenState.setMaxInactive
  dsimp only
  split <;> exact ⟨rfl, rfl, rfl⟩

theorem isPast_eq_false_iff {deadline now : Int64} :
    isPast deadline now = false ↔ deadline = -1 ∨ now ≤ deadline := by
  unfold isPast
  by_cases h : deadline = -1
  · simp [h]
  · simp [h, Int64.not_lt]

theorem isExpired_eq_false_iff {t : Token} {now : Int64} :
    t.isExpired now = false ↔
      (t.maxInactive = -1 ∨ now ≤ t.maxInactive) ∧ (t.expires = -1 ∨ now ≤ t.expires) := by
  rw [isExpired, Bool.or_eq_false_iff, isPast_eq_false_iff, isPast_eq_false_iff]

end Token

theorem SessionPolicy.sameUser_refresh (p : SessionPolicy) (token : Token) (now : Int64) :
    (p.refresh token now).SameUser token := by
  unfold SessionPolicy.refresh
  split
  · exact Token.sameUser_setMaxInactive _ _
  · exact Token.SameUser.refl _

theorem SessionPolicy.expires_refresh (p : SessionPolicy) (token : Token) (now : Int64) :
    (p.refresh token now).expires = token.expires := by
  unfold SessionPolicy.refresh
  split
  · unfold Token.setMaxInactive TokenState.setMaxInactive
    dsimp only
    split <;> rfl
  · rfl

/-- An attempt that goes on has the result that follows from its own. -/
theorem Attempt.run_andThen {α β : Type} (authorities : Authorities) (attempt : Attempt α)
    (f : Result α → Result β) :
    (attempt.andThen f).run authorities = f (attempt.run authorities) := by
  cases attempt <;> rfl

namespace Gate

variable {g : Gate} {keys : Keyring} {now : Int64} {request : Request}

/-! ## What a session cookie has to show -/

/-- The session cookie of a request vouches for a token: the value of the first readable one,
without one pair of quotes, is the text of the token signed with a secret in effect, and the token
is of an accepted kind and has not expired. -/
def Vouched (g : Gate) (keys : Keyring) (now : Int64) (request : Request) (token : Token) : Prop :=
  ∃ value signed payload secret,
    Http.Cookie.IsFirst request.headers SessionPolicy.cookieName value ∧
    (value = "\"" ++ signed ++ "\"" ∨
      (∀ inner, value ≠ "\"" ++ inner ++ "\"") ∧ value = signed) ∧
    (secret = keys.current ∨ keys.previous = some secret) ∧
    signed = payload ++ Signature.mark ++ Signature.code secret payload ∧
    Token.parse payload = .ok token ∧
    token.kind ∈ g.handler.tokenKinds ∧
    (token.maxInactive = -1 ∨ now ≤ token.maxInactive) ∧
    (token.expires = -1 ∨ now ≤ token.expires)

theorem tokenOf?_eq_some_iff {signed : String} {token : Token} :
    g.tokenOf? keys now signed = some token ↔
      ∃ payload, Signature.verify keys signed = .ok payload ∧ Token.parse payload = .ok token ∧
        token.kind ∈ g.handler.tokenKinds ∧ token.isExpired now = false := by
  unfold tokenOf?
  constructor
  · intro h
    split at h
    · rename_i found hFound
      split at h
      · rename_i hGood
        cases h
        obtain ⟨payload, hv, hParse⟩ := bind_eq_ok_iff.mp hFound
        simp only [Bool.and_eq_true, List.contains_iff_mem, Bool.not_eq_true'] at hGood
        exact ⟨payload, hv, hParse, hGood.1, hGood.2⟩
      · cases h
    · cases h
  · rintro ⟨payload, hv, hParse, hKind, hExp⟩
    have hBind : (Signature.verify keys signed).bind Token.parse = .ok token :=
      bind_eq_ok_iff.mpr ⟨payload, hv, hParse⟩
    simp [hBind, hKind, hExp]

/-- The gate takes a session cookie as good exactly if it vouches for a token. -/
theorem presented_eq_valid_iff {token : Token} :
    g.presented keys now request = .valid token ↔ g.Vouched keys now request token := by
  have hValid : g.presented keys now request = .valid token ↔
      ∃ value, Http.Cookie.value? request.headers SessionPolicy.cookieName = some value ∧
        g.tokenOf? keys now (Text.unquote value) = some token := by
    unfold presented
    cases Http.Cookie.value? request.headers SessionPolicy.cookieName with
    | none => simp
    | some value =>
      simp only [Option.some.injEq, exists_eq_left']
      cases g.tokenOf? keys now (Text.unquote value) <;> simp
  rw [hValid]
  constructor
  · rintro ⟨value, hValue, hToken⟩
    obtain ⟨payload, hv, hParse, hKind, hExp⟩ := tokenOf?_eq_some_iff.mp hToken
    obtain ⟨secret, hMem, hSigned⟩ := Signature.verify_eq_ok_iff.mp hv
    exact ⟨value, _, payload, secret, Http.Cookie.value?_eq_some_iff.mp hValue,
      Text.unquote_eq_iff.mp rfl, Keyring.mem_secrets.mp hMem, hSigned, hParse, hKind,
      Token.isExpired_eq_false_iff.mp hExp⟩
  · rintro ⟨value, signed, payload, secret, hFirst, hQuotes, hMem, hSigned, hParse, hKind, hExp⟩
    refine ⟨value, Http.Cookie.value?_eq_some_iff.mpr hFirst, tokenOf?_eq_some_iff.mpr ?_⟩
    refine ⟨payload, ?_, hParse, hKind, Token.isExpired_eq_false_iff.mpr hExp⟩
    rw [Text.unquote_eq_iff.mpr hQuotes]
    exact Signature.verify_eq_ok_iff.mpr ⟨secret, Keyring.mem_secrets.mpr hMem, hSigned⟩

/-! ## What follows for the decision -/

/-- The decision about a request is made without the handler: no authority is asked, and any other
handler in front of which the same kinds of tokens are accepted would make no difference. -/
def DecidedAlone (g : Gate) (keys : Keyring) (now : Int64) (request : Request) : Prop :=
  (g.check keys now request).question? = none ∧
    ∀ other : Handler, other.tokenKinds = g.handler.tokenKinds →
      ({ g with handler := other } : Gate).check keys now request = g.check keys now request

theorem vouched_handler {token : Token} {other : Handler}
    (hKinds : other.tokenKinds = g.handler.tokenKinds) (h : g.Vouched keys now request token) :
    ({ g with handler := other } : Gate).Vouched keys now request token := by
  unfold Vouched at h ⊢
  rw [hKinds]
  exact h

theorem check_of_vouched {token : Token} (h : g.Vouched keys now request token) :
    g.check keys now request = .done (g.resume keys now request.target.isSecure token) := by
  simp only [check, presented_eq_valid_iff.mpr h]

theorem decidedAlone_of_vouched {token : Token} (h : g.Vouched keys now request token) :
    g.DecidedAlone keys now request := by
  constructor
  · rw [check_of_vouched h]
    rfl
  · intro other hKinds
    rw [check_of_vouched h, check_of_vouched (vouched_handler hKinds h)]
    rfl

/-- Without a cookie that vouches for somebody, the decision follows from what the handler says. -/
theorem check_run_of_not_vouched (authorities : Authorities)
    (h : ∀ token, ¬ g.Vouched keys now request token) :
    ∃ rejected, (g.check keys now request).run authorities =
      g.decide keys now request.target.isSecure rejected
        ((g.handler.authenticate request).run authorities) := by
  unfold check
  cases hp : g.presented keys now request with
  | absent => exact ⟨false, Attempt.run_andThen _ _ _⟩
  | rejected => exact ⟨true, Attempt.run_andThen _ _ _⟩
  | valid token => exact absurd (presented_eq_valid_iff.mp hp) (h token)

/-- A decision is that about a good cookie, or it follows from what the handler says. -/
theorem check_run_cases (g : Gate) (authorities : Authorities) (keys : Keyring) (now : Int64)
    (request : Request) :
    (∃ seen, g.Vouched keys now request seen ∧
      (g.check keys now request).run authorities =
        g.resume keys now request.target.isSecure seen) ∨
    (∀ seen, ¬ g.Vouched keys now request seen) ∧
      ∃ rejected, (g.check keys now request).run authorities =
        g.decide keys now request.target.isSecure rejected
          ((g.handler.authenticate request).run authorities) := by
  by_cases hv : ∃ seen, g.Vouched keys now request seen
  · obtain ⟨seen, hSeen⟩ := hv
    refine .inl ⟨seen, hSeen, ?_⟩
    rw [check_of_vouched hSeen, Attempt.run]
  · have hNone : ∀ seen, ¬ g.Vouched keys now request seen := fun seen hs => hv ⟨seen, hs⟩
    exact .inr ⟨hNone, check_run_of_not_vouched authorities hNone⟩

theorem resume_proceed {secure : Bool} {seen token : Token} {headers : Headers}
    (h : g.resume keys now secure seen = .ok (.proceed token headers)) :
    token.SameUser seen ∧ token.expires = seen.expires := by
  unfold resume at h
  split at h
  · obtain ⟨fields, -, h⟩ := bind_eq_ok_iff.mp h
    cases h
    exact ⟨g.policy.sameUser_refresh seen now, g.policy.expires_refresh seen now⟩
  · cases h
    exact ⟨Token.SameUser.refl _, rfl⟩

theorem welcome_proceed {secure : Bool} {seen token : Token} {fields headers : Headers}
    (h : g.welcome keys now secure seen fields = .ok (.proceed token headers)) :
    token.SameUser seen := by
  unfold welcome at h
  split at h
  · cases h
    exact Token.SameUser.refl _
  · obtain ⟨written, -, h⟩ := bind_eq_ok_iff.mp h
    cases h
    exact (g.policy.sameUser_refresh _ now).trans (seen.sameUser_setExpires _)

theorem refuse_ne_proceed {secure rejected : Bool} {challenge : Challenge} {token : Token}
    {headers : Headers} : g.refuse secure rejected challenge ≠ .ok (.proceed token headers) := by
  intro h
  unfold refuse at h
  split at h
  · obtain ⟨field, -, h⟩ := bind_eq_ok_iff.mp h
    cases h
  · cases h

/-- A request passes on the word of the handler only if the handler has authenticated it. -/
theorem decide_proceed {secure rejected : Bool} {outcome : Result Outcome} {token : Token}
    {headers : Headers}
    (h : g.decide keys now secure rejected outcome = .ok (.proceed token headers)) :
    ∃ seen fields, outcome = .ok (.authenticated seen fields) ∧ token.SameUser seen := by
  unfold decide at h
  split at h
  · rename_i seen fields
    exact ⟨seen, fields, rfl, welcome_proceed h⟩
  · exact absurd h refuse_ne_proceed
  · exact absurd h refuse_ne_proceed

end Gate

/-! ## The service behind the gate -/

namespace Service

variable {m : Type → Type} [Monad m]

/-- The service that does something else at the beginning of each call. -/
def noting (note : Token → Request → m Unit) (serve : Token → Request → m Response)
    (token : Token) (request : Request) : m Response := do
  note token request
  serve token request

/-- Whatever is done at each call of the service is done once if the request passes, before all
else and for the user who was found. -/
theorem answer_noting_of_proceed [LawfulMonad m] (note : Token → Request → m Unit)
    (serve : Token → Request → m Response) (request : Request) (token : Token)
    (headers : Headers) :
    answer (noting note serve) request (.ok (.proceed token headers)) =
      (do note token request; answer serve request (.ok (.proceed token headers))) := by
  simp only [answer, noting, bind_assoc]

/-- A request that does not pass gets an answer in which the service has no part. -/
theorem answer_of_not_proceed {decision : Result Decision} (request : Request)
    (h : ∀ token headers, decision ≠ .ok (.proceed token headers)) :
    ∃ response, ∀ (m : Type → Type) [Monad m] (serve : Token → Request → m Response),
      answer serve request decision = pure response := by
  match decision, h with
  | .ok (.proceed token headers), h => exact absurd rfl (h token headers)
  | .ok (.respond challenge), _ => exact ⟨ofChallenge challenge, fun _ _ _ => rfl⟩
  | .error _, _ => exact ⟨failed, fun _ _ _ => rfl⟩

end Service

/-- **Who passes a gate.** A request passes only if its session cookie vouches for the user, and
then the handler is not consulted, or if no cookie does and the handler has authenticated the
request. The service behind the gate is called exactly once, with the token that passes, if a
request passes, and not at all if none does: `note` stands for anything that could tell a call. -/
theorem Gate.admission_sound (g : Gate) (authorities : Authorities) (keys : Keyring) (now : Int64)
    (request : Request) :
    (∀ token headers, (g.check keys now request).run authorities = .ok (.proceed token headers) →
      (∃ seen, g.Vouched keys now request seen ∧ token.SameUser seen ∧
        token.expires = seen.expires ∧ g.DecidedAlone keys now request) ∨
      (∀ seen, ¬ g.Vouched keys now request seen) ∧
        ∃ seen fields, (g.handler.authenticate request).run authorities =
          .ok (.authenticated seen fields) ∧ token.SameUser seen) ∧
    (∀ token headers, (g.check keys now request).run authorities = .ok (.proceed token headers) →
      ∀ (m : Type → Type) [Monad m] [LawfulMonad m] (note : Token → Request → m Unit)
        (serve : Token → Request → m Response),
        Service.guarded g (Service.noting note serve) authorities keys now request =
          (do note token request; Service.guarded g serve authorities keys now request)) ∧
    ((∀ token headers,
        (g.check keys now request).run authorities ≠ .ok (.proceed token headers)) →
      ∃ response, ∀ (m : Type → Type) [Monad m] (serve : Token → Request → m Response),
        Service.guarded g serve authorities keys now request = pure response) := by
  refine ⟨?_, ?_, ?_⟩
  · intro token headers h
    by_cases hv : ∃ seen, g.Vouched keys now request seen
    · left
      obtain ⟨seen, hSeen⟩ := hv
      rw [Gate.check_of_vouched hSeen] at h
      obtain ⟨hUser, hExpires⟩ := Gate.resume_proceed h
      exact ⟨seen, hSeen, hUser, hExpires, Gate.decidedAlone_of_vouched hSeen⟩
    · right
      have hNone : ∀ seen, ¬ g.Vouched keys now request seen := fun seen hs => hv ⟨seen, hs⟩
      obtain ⟨rejected, hRun⟩ := Gate.check_run_of_not_vouched authorities hNone
      rw [hRun] at h
      exact ⟨hNone, Gate.decide_proceed h⟩
  · intro token headers h m _ _ note serve
    simp only [Service.guarded, h]
    exact Service.answer_noting_of_proceed note serve request token headers
  · intro h
    exact Service.answer_of_not_proceed request h

/-! ## A cookie of the secret before the current one -/

/-- The token of a user with a common name. -/
def Token.ann (maxInactive : Int64 := -1) (expires : Int64 := -1) : Token where
  user := "ann"
  principal := "ann"
  kind := "simple"
  maxInactive
  expires

/-- A gate that takes clients at their word. -/
def Gate.credulous : Gate where
  handler := PseudoHandler.handler {}

/-- A keyring after one rotation. -/
def Keyring.rotatedOnce : Keyring :=
  ⟨Text.Utf8.encode "new", some (Text.Utf8.encode "old")⟩

/-- A request with two cookies in one field, of which the second is signed with the old secret. -/
def Gate.returningRequest : Request where
  target := { path := "/" }
  headers := .ofTexts [(Http.cookieField,
    "lang=en; auth=\"u=ann&p=ann&t=simple&e=-1&s=5o2RaYeRQiTMDHX3vMQomJWoqueJgPeUfNvgoSchM3s=\"")]

/-- Authorities that nobody should have to ask. -/
def Authorities.silent : Authorities :=
  ⟨fun _ => .error "", fun _ _ => .error ""⟩

/-- The returning user passes on the cookie alone and is served once; a request with neither a
cookie nor a name is not served. -/
theorem Gate.admission_sound_returning :
    let token : Token := .ann
    let nameless : Request := { target := { path := "/" } }
    (Gate.credulous.check .rotatedOnce 5 Gate.returningRequest).run .silent =
      .ok (.proceed token {}) ∧
    ((∃ seen, Gate.credulous.Vouched .rotatedOnce 5 Gate.returningRequest seen ∧
        token.SameUser seen ∧ token.expires = seen.expires ∧
        Gate.credulous.DecidedAlone .rotatedOnce 5 Gate.returningRequest) ∨
      (∀ seen, ¬ Gate.credulous.Vouched .rotatedOnce 5 Gate.returningRequest seen) ∧
        ∃ seen fields, (Gate.credulous.handler.authenticate Gate.returningRequest).run .silent =
          .ok (.authenticated seen fields) ∧ token.SameUser seen) ∧
    (∀ serve : Token → Request → StateM (List (Token × Request)) Response,
      Service.guarded Gate.credulous
          (Service.noting (fun t r => modify ((t, r) :: ·)) serve) .silent .rotatedOnce 5
          Gate.returningRequest =
        (do
          modify ((token, Gate.returningRequest) :: ·)
          Service.guarded Gate.credulous serve .silent .rotatedOnce 5 Gate.returningRequest)) ∧
    ∃ response, ∀ (m : Type → Type) [Monad m] (serve : Token → Request → m Response),
      Service.guarded Gate.credulous serve .silent .rotatedOnce 5 nameless = pure response := by
  intro token nameless
  let payload := "u=ann&p=ann&t=simple&e=-1"
  let signed := payload ++ "&s=" ++ "5o2RaYeRQiTMDHX3vMQomJWoqueJgPeUfNvgoSchM3s="
  have hSigned : signed = payload ++ Signature.mark ++
      Signature.code (Text.Utf8.encode "old") payload := by decide +kernel
  have hFirst : Http.Cookie.value? Gate.returningRequest.headers SessionPolicy.cookieName =
      some ("\"" ++ signed ++ "\"") := by decide +kernel
  have hVouched : Gate.credulous.Vouched .rotatedOnce 5 Gate.returningRequest token :=
    ⟨_, signed, payload, Text.Utf8.encode "old", Http.Cookie.value?_eq_some_iff.mp hFirst, .inl rfl,
      .inr rfl, hSigned, by decide +kernel, by decide, .inl rfl, .inl rfl⟩
  have hPass : (Gate.credulous.check .rotatedOnce 5 Gate.returningRequest).run .silent =
      .ok (.proceed token {}) := by
    rw [Gate.check_of_vouched hVouched]
    rfl
  have hStop : (Gate.credulous.check .rotatedOnce 5 nameless).run .silent =
      .ok (.respond PseudoHandler.nameMissing) := by decide +kernel
  refine ⟨hPass, ?_, ?_, ?_⟩
  · exact (Gate.admission_sound _ _ _ _ _).1 token {} hPass
  · intro serve
    exact (Gate.admission_sound _ _ _ _ _).2.1 token {} hPass _ _ serve
  · refine (Gate.admission_sound _ _ _ _ _).2.2 ?_
    intro other headers h
    rw [hStop] at h
    cases h

end SignOn
