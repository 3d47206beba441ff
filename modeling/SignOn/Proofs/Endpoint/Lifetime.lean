import Mathlib.Algebra.Group.Int.Defs
import Mathlib.Algebra.Group.Nat.Defs
import SignOn.Proofs.Endpoint.SessionCookie

/-!
# How long a session lasts

A client is authenticated once and from then on has nothing but its cookie: each later request
carries the cookie that was set last, and the handler refuses it (`Stay.Replays`). The session goes
on as long as every request comes within the validity since the first one and, if inactivity
matters, within the inactive interval since the one before; the cookies that are issued on the way
move the latter deadline and never the former (`Stay.lifetime`).

After each visit the client is in one of two states. Either all requests have passed and the cookie
it holds is that of a token with the deadlines of this moment (`Stay.Alive`), or one was stopped and
no gate with these kinds of tokens will ever take the cookie it holds (`Stay.Dead`).
-/

namespace SignOn

open SignOn.Http (Headers Request IsPlain)
open SignOn.Text (Bytes)

/-! ## Deadlines -/

/-- A length of time is added in whole milliseconds, and the sum wraps around. -/
theorem Duration.toInt_add_wrappedMillis_bmod (now : Int64) (d : Duration) :
    (now + d.wrappedMillis).toInt = (now.toInt + d.millis).bmod (2 ^ 64) := by
  rw [Int64.toInt_add, Duration.wrappedMillis, Int64.toInt_ofNat', Int.add_bmod_bmod]
  rfl

/-- Within range, a length of time is added as it is. -/
theorem Duration.toInt_add_wrappedMillis {now : Int64} {d : Duration} (hNow : 0 ≤ now.toInt)
    (hRange : now.toInt + d.millis < 2 ^ 63) :
    (now + d.wrappedMillis).toInt = now.toInt + d.millis := by
  rw [Duration.toInt_add_wrappedMillis_bmod]
  exact Int.bmod_eq_of_le (by omega) (by omega)

/-- A token that has not expired had not expired before. -/
theorem Token.isExpired_of_le {t : Token} {now later : Int64} (h : now.toInt ≤ later.toInt)
    (hLater : t.isExpired later = false) : t.isExpired now = false := by
  rw [isExpired_eq_false_iff] at hLater ⊢
  simp only [Int64.le_iff_toInt_le] at hLater ⊢
  exact ⟨hLater.1.imp_right (Int.le_trans h), hLater.2.imp_right (Int.le_trans h)⟩

theorem Token.deadline_iff {deadline now : Int64} (h : 0 ≤ deadline.toInt) :
    deadline = -1 ∨ now ≤ deadline ↔ now.toInt ≤ deadline.toInt := by
  rw [← Int64.le_iff_toInt_le, or_iff_right]
  -- `-1` marks that there is no deadline.
  rintro rfl
  exact absurd h (by decide)

/-- The deadline for inactivity of a session that was last used at a moment. -/
def SessionPolicy.idleEnd (p : SessionPolicy) (now : Int64) : Int64 :=
  match p.maxInactive with
  | some length => now + length.wrappedMillis
  | none => -1

theorem SessionPolicy.idleEnd_of_none {p : SessionPolicy} (h : p.maxInactive = none)
    (now : Int64) : p.idleEnd now = -1 := by
  rw [SessionPolicy.idleEnd, h]

/-- A refreshed token has the deadline for inactivity of that moment. -/
theorem SessionPolicy.maxInactive_refresh {p : SessionPolicy} {token : Token}
    (hToken : token.WellFormed) (hNever : p.maxInactive = none → token.maxInactive = -1)
    (now : Int64) : (p.refresh token now).maxInactive = p.idleEnd now := by
  cases hLength : p.maxInactive with
  | none =>
    rw [p.idleEnd_of_none hLength, SessionPolicy.refresh, hLength]
    exact hNever hLength
  | some length =>
    simp only [SessionPolicy.refresh, SessionPolicy.idleEnd, hLength]
    rw [Token.toTokenState_setMaxInactive hToken.isAnonymous_eq_false]
    rfl

namespace Gate

/-! ## Refusing -/

/-- A handler that comes to this stops the request and leaves cookies to the gate. -/
def Stops (outcome : Result Outcome) : Prop :=
  ∀ o, outcome = .ok o → ∃ c, o = .challenge c ∧ c.headers.getAll Http.setCookieField = []

/-- What a handler of the library does not authenticate it stops. -/
theorem stops_of_shipped {h : Handler} (hShipped : h.Shipped) {request : Request}
    {authorities : Authorities}
    (hNone : ∀ token headers,
      (h.authenticate request).run authorities ≠ .ok (.authenticated token headers)) :
    Stops ((h.authenticate request).run authorities) := by
  intro o ho
  have hProper := hShipped.proper ho
  cases o with
  | authenticated token headers => exact absurd ho (hNone token headers)
  | challenge c => exact ⟨c, rfl, hProper⟩

variable {g : Gate} {keys : Keyring} {now : Int64} {secure rejected : Bool} {request : Request}

theorem decide_of_stops {outcome : Result Outcome} (h : Stops outcome) :
    ∃ c, g.decide keys now secure rejected outcome = g.refuse secure rejected c ∧
      c.headers.getAll Http.setCookieField = [] := by
  match outcome, h with
  | .error _, _ => exact ⟨_, rfl, rfl⟩
  | .ok (.authenticated token headers), h =>
    obtain ⟨c, hChallenge, -⟩ := h _ rfl
    cases hChallenge
  | .ok (.challenge c), h =>
    obtain ⟨c', hChallenge, hQuiet⟩ := h _ rfl
    cases hChallenge
    refine ⟨_, rfl, ?_⟩
    unfold shown
    split <;> exact hQuiet

end Gate

/-! ## Visits -/

/-- A request with the moment, the secrets in effect and the authorities that can be asked. -/
structure Visit where
  now : Int64
  keys : Keyring
  authorities : Authorities
  request : Request

/-- What a gate decides at a visit. -/
def Gate.decision (g : Gate) (v : Visit) : Result Decision :=
  (g.check v.keys v.now v.request).run v.authorities

/-- The fields that a decision adds to the answer. -/
def Decision.headers : Decision → Headers
  | .proceed _ headers => headers
  | .respond challenge => challenge.headers

/-- The cookie that a client takes from an answer: what stands in front of the first semicolon of
the last one that is set. -/
def cookieSet? : Result Decision → Option Bytes
  | .ok decision =>
    (decision.headers.getAll Http.setCookieField).getLast?.map (Text.before 0x3B)
  | .error _ => none

/-- If a session cookie is issued, the client takes its name and value. -/
theorem Gate.cookieSet?_issued {g : Gate} {keys : Keyring} {now : Int64} {secure : Bool}
    {issued token : Token} {fields : Headers} (hWhole : ';' ∉ (pairText keys issued).toList) :
    cookieSet? (.ok (.proceed token (fields.append Http.setCookieField
      (Text.Utf8.encode (g.sessionCookie keys now secure issued).text)))) =
      some (Text.Utf8.encode (pairText keys issued)) := by
  rw [cookieSet?, Decision.headers, Headers.getAll_append, List.getLast?_concat, Option.map_some,
    before_text_of_not_mem hWhole]

/-- If a client is refused, its cookie is cleared or stays. -/
theorem Gate.cookieSet?_refuse {g : Gate} {secure rejected : Bool} {c : Challenge}
    (hQuiet : c.headers.getAll Http.setCookieField = []) :
    cookieSet? (g.refuse secure rejected c) = none ∨
      cookieSet? (g.refuse secure rejected c) = some (Text.Utf8.encode "auth=") := by
  cases hRefuse : g.refuse secure rejected c with
  | error e => exact .inl rfl
  | ok decision =>
    unfold refuse at hRefuse
    split at hRefuse
    · obtain ⟨field, hField, hRefuse⟩ := bind_eq_ok_iff.mp hRefuse
      cases hRefuse
      obtain ⟨-, rfl⟩ := cookieField_eq_ok_iff.mp hField
      right
      have hPair : (g.policy.clearing secure).pairText = "auth=" := by
        simp [Http.Cookie.pairText, SessionPolicy.clearing, SessionPolicy.cookieName]
      rw [cookieSet?, Decision.headers, Challenge.withField, Headers.getAll_append,
        List.getLast?_concat, Option.map_some,
        Http.Cookie.before_encode_text rfl (by rw [hPair]; decide), hPair]
    · cases hRefuse
      left
      simp [cookieSet?, Decision.headers, hQuiet]

/-! ## Stays -/

/-- The visits of a client to a gate. From the second one on there is another handler. -/
structure Stay where
  gate : Gate
  refusing : Handler
  visit : ℕ → Visit

namespace Stay

/-- The gate after the first visit. -/
def later (s : Stay) : Gate :=
  { s.gate with handler := s.refusing }

/-- What is decided at a visit. -/
def answer (s : Stay) : ℕ → Result Decision
  | 0 => s.gate.decision (s.visit 0)
  | n + 1 => s.later.decision (s.visit (n + 1))

/-- The cookie that the client holds after a visit, with the secrets at the visit that set it. -/
def held (s : Stay) : ℕ → Option (Bytes × Keyring)
  | 0 => (cookieSet? (s.answer 0)).map fun field => (field, (s.visit 0).keys)
  | n + 1 =>
    ((cookieSet? (s.answer (n + 1))).map fun field => (field, (s.visit (n + 1)).keys)).or
      (s.held n)

/-- The request of a visit passes. -/
def Passes (s : Stay) (n : ℕ) : Prop :=
  ∃ token headers, s.answer n = .ok (.proceed token headers)

/-- The first visit begins a session with a token, and at each of the next `last` visits the client
sends the cookie that was set last to a handler that refuses the request. -/
structure Replays (s : Stay) (token : Token) (last : ℕ) : Prop where
  shipped : s.gate.handler.Shipped
  kinds : s.refusing.tokenKinds = s.gate.handler.tokenKinds
  fresh : ∀ seen, ¬ s.gate.Vouched (s.visit 0).keys (s.visit 0).now (s.visit 0).request seen
  begins : ∃ headers, s.answer 0 = .ok (.proceed token headers)
  named : token.isAnonymous = false
  plain : ∀ field ∈ [token.user, token.principal, token.kind], IsPlain field
  start : 0 ≤ (s.visit 0).now.toInt
  ordered : ∀ n < last, (s.visit n).now.toInt ≤ (s.visit (n + 1)).now.toInt
  validity : (s.visit 0).now.toInt + s.gate.policy.validity.millis < 2 ^ 63
  inactivity : ∀ length, s.gate.policy.maxInactive = some length →
    ∀ n ≤ last, (s.visit n).now.toInt + length.millis < 2 ^ 63
  stops : ∀ n < last, Gate.Stops
    ((s.refusing.authenticate (s.visit (n + 1)).request).run (s.visit (n + 1)).authorities)
  replays : ∀ n < last, ∀ cookie ∈ s.held n, (s.visit (n + 1)).request.Carries cookie.1
  /-- The secret is rotated at most once between the setting of a cookie and a visit with it. -/
  rotates : ∀ n < last, (∀ k < n, s.Passes (k + 1)) → ∀ cookie ∈ s.held n,
    (s.visit (n + 1)).keys = cookie.2 ∨ ∃ next, (s.visit (n + 1)).keys = cookie.2.rotate next

/-- All requests have passed, and the client holds the cookie of a token with the deadlines of this
moment. -/
structure Alive (s : Stay) (token : Token) (n : ℕ) (current : Token) (signer : Keyring) : Prop where
  passed : ∀ k < n, s.Passes (k + 1)
  wellFormed : current.WellFormed
  sameUser : current.SameUser token
  kind : current.kind ∈ s.gate.handler.tokenKinds
  expires : current.expires = s.gate.policy.expiry (s.visit 0).now
  maxInactive : current.maxInactive = s.gate.policy.idleEnd (s.visit n).now
  held : s.held n = some (Text.Utf8.encode (Gate.pairText signer current), signer)

/-- A request was stopped, and the cookie that the client holds vouches for nobody any more. -/
structure Dead (s : Stay) (n : ℕ) : Prop where
  stopped : ¬ ∀ k < n, s.Passes (k + 1)
  held : ∃ field keys, s.held n = some (field, keys) ∧
    ∀ keys' now' request seen, (s.visit n).now.toInt ≤ now'.toInt → request.Carries field →
      ¬ s.later.Vouched keys' now' request seen

variable {s : Stay} {token current : Token} {signer : Keyring} {n last : ℕ}

/-- Every cookie that the client gets with a token of the user is plain. -/
theorem Replays.isPlain_pairText (h : s.Replays token last) (hToken : current.WellFormed)
    (hUser : current.SameUser token) (keys : Keyring) : IsPlain (Gate.pairText keys current) := by
  refine Gate.isPlain_pairText keys hToken ?_
  rw [hUser.1, hUser.2.1, hUser.2.2]
  exact h.plain

/-! ### The first visit -/

/-- At the beginning the client holds the cookie of the token that it was authenticated with. -/
theorem Replays.alive_zero (h : s.Replays token last) :
    s.Alive token 0 token (s.visit 0).keys ∧ s.gate.policy.Writable := by
  obtain ⟨headers, hBegins⟩ := h.begins
  obtain ⟨rejected, hRun⟩ := Gate.check_run_of_not_vouched (s.visit 0).authorities h.fresh
  have hDecide := hRun.symm.trans hBegins
  obtain ⟨seen, fields, hOutcome, hSame⟩ := Gate.decide_proceed hDecide
  obtain ⟨hNobody | ⟨hSeen, hKind, hNever⟩, -⟩ := h.shipped.proper hOutcome
  · -- A handler may let everybody pass as nobody, but this token names a user.
    have hUser := h.named
    rw [TokenState.isAnonymous, hSame.1, hNobody] at hUser
    cases hUser
  · rw [hOutcome] at hDecide
    obtain ⟨hToken, hAdmits, hHeaders⟩ :=
      (Gate.welcome_proceed_iff hSeen.isAnonymous_eq_false).mp hDecide
    have hWellFormed : token.WellFormed := .of_sameUser hSame hSeen
    have hPlain := h.isPlain_pairText hWellFormed (.refl token) (s.visit 0).keys
    have hState := Token.toTokenState_setExpires hSeen.isAnonymous_eq_false
      (s.gate.policy.expiry (s.visit 0).now)
    refine ⟨?_, (Gate.admits_sessionCookie_iff.mp hAdmits).2⟩
    exact {
      passed := fun k hk => absurd hk (Nat.not_lt_zero k)
      wellFormed := hWellFormed
      sameUser := .refl token
      kind := hSame.2.2 ▸ hKind
      expires := by
        rw [hToken, SessionPolicy.expires_refresh, hState]
        rfl
      maxInactive := by
        rw [hToken]
        refine SessionPolicy.maxInactive_refresh (hSeen.setExpires _) (fun _ => ?_) _
        rw [hState]
        exact hNever
      held := by
        rw [held, hBegins, hHeaders, Gate.cookieSet?_issued hPlain.not_mem, Option.map_some] }

/-! ### The next visit -/

/-- A client whose cookie vouches for nobody is refused, and its cookie is cleared or stays. -/
theorem Replays.refused (h : s.Replays token last) (hn : n < last)
    (hNone : ∀ seen, ¬ s.later.Vouched (s.visit (n + 1)).keys (s.visit (n + 1)).now
      (s.visit (n + 1)).request seen) :
    ¬ s.Passes (n + 1) ∧ (s.held (n + 1) = s.held n ∨
      s.held (n + 1) = some (Text.Utf8.encode "auth=", (s.visit (n + 1)).keys)) := by
  obtain ⟨rejected, hRun⟩ :=
    Gate.check_run_of_not_vouched (s.visit (n + 1)).authorities hNone
  obtain ⟨c, hRefuse, hQuiet⟩ := Gate.decide_of_stops (g := s.later) (h.stops n hn)
  have hAnswer : s.answer (n + 1) = _ := hRun.trans hRefuse
  constructor
  · rintro ⟨seen, headers, hPasses⟩
    exact Gate.refuse_ne_proceed (hAnswer.symm.trans hPasses)
  · rw [held, hAnswer]
    rcases Gate.cookieSet?_refuse hQuiet with hKept | hCleared
    · left
      rw [hKept, Option.map_none, Option.none_or]
    · right
      rw [hCleared, Option.map_some, Option.some_or]

theorem not_vouched_cleared {g : Gate} {keys : Keyring} {now : Int64} {request : Request}
    (hSent : request.Carries (Text.Utf8.encode "auth=")) (seen : Token) :
    ¬ g.Vouched keys now request seen := by
  refine Gate.not_vouched_of_mark fun field hField text hRead hMark => ?_
  rw [hSent, List.mem_singleton] at hField
  rw [hField, Headers.readable?_encode_eq_some_iff] at hRead
  rw [hRead.1] at hMark
  exact absurd hMark (by decide)

theorem Dead.succ (h : s.Replays token last) (hn : n < last) (hDead : s.Dead n) :
    ¬ s.Passes (n + 1) ∧ s.Dead (n + 1) := by
  obtain ⟨field, keys, hHeld, hNever⟩ := hDead.held
  obtain ⟨hStopped, hNext⟩ := h.refused hn fun seen =>
    hNever _ _ _ seen (h.ordered n hn) (h.replays n hn _ hHeld)
  refine ⟨hStopped, fun hAll => hDead.stopped fun k hk => hAll k (by omega), ?_⟩
  rcases hNext with hKept | hCleared
  · rw [hKept]
    -- Time only goes on: what is never good from the last visit on is not good from this one on.
    refine ⟨field, keys, hHeld, fun keys' now' request seen hLater => ?_⟩
    exact hNever keys' now' request seen (Int.le_trans (h.ordered n hn) hLater)
  · exact ⟨_, _, hCleared, fun _ _ _ seen _ hSent => not_vouched_cleared hSent seen⟩

/-- The cookie that the client holds while it is alive vouches for its token as long as that has not
expired and a secret in effect gives it the code that it was signed with. -/
theorem Alive.vouched_iff (h : s.Replays token last) (hAlive : s.Alive token n current signer)
    {keys : Keyring} {now : Int64} {request : Request} {seen : Token}
    (hSent : request.Carries (Text.Utf8.encode (Gate.pairText signer current))) :
    s.later.Vouched keys now request seen ↔
      seen = current ∧ current.isExpired now = false ∧
        ∃ live ∈ keys.secrets, Hash.hmac live (Text.Utf8.encode current.encode) =
          Hash.hmac signer.current (Text.Utf8.encode current.encode) := by
  have hPlain := h.isPlain_pairText hAlive.wellFormed hAlive.sameUser signer
  have hKind : current.kind ∈ s.later.handler.tokenKinds := by
    have hKinds : s.later.handler.tokenKinds = s.gate.handler.tokenKinds := h.kinds
    exact hKinds ▸ hAlive.kind
  rw [Gate.vouched_pairText_iff hAlive.wellFormed hPlain.readable? hPlain.not_mem hSent]
  simp only [hKind, true_and]

/-- If the token has expired, the client is dead from now on. -/
theorem Alive.dead_succ (h : s.Replays token last) (hn : n < last)
    (hAlive : s.Alive token n current signer)
    (hExpired : current.isExpired (s.visit (n + 1)).now = true) :
    ¬ s.Passes (n + 1) ∧ s.Dead (n + 1) := by
  -- Whatever the secrets and the request are, the deadline that has passed is part of the cookie.
  have hNever : ∀ keys now request seen, (s.visit (n + 1)).now.toInt ≤ now.toInt →
      request.Carries (Text.Utf8.encode (Gate.pairText signer current)) →
      ¬ s.later.Vouched keys now request seen := by
    intro keys now request seen hLater hSent hVouched
    have hGood := ((hAlive.vouched_iff h hSent).mp hVouched).2.1
    rw [Token.isExpired_of_le hLater hGood] at hExpired
    cases hExpired
  have hSent := h.replays n hn _ hAlive.held
  obtain ⟨hStopped, hNext⟩ := h.refused hn fun seen => hNever _ _ _ seen (Int.le_refl _) hSent
  refine ⟨hStopped, fun hAll => hStopped (hAll n (Nat.lt_succ_self n)), ?_⟩
  rcases hNext with hKept | hCleared
  · rw [hKept]
    exact ⟨_, _, hAlive.held, hNever⟩
  · exact ⟨_, _, hCleared, fun _ _ _ seen _ hSent => not_vouched_cleared hSent seen⟩

theorem Alive.answer_succ (h : s.Replays token last) (hn : n < last)
    (hAlive : s.Alive token n current signer)
    (hGood : current.isExpired (s.visit (n + 1)).now = false) :
    s.answer (n + 1) = s.later.resume (s.visit (n + 1)).keys (s.visit (n + 1)).now
      (s.visit (n + 1)).request.target.isSecure current := by
  have hSent := h.replays n hn _ hAlive.held
  have hLive : signer.current ∈ (s.visit (n + 1)).keys.secrets := by
    rcases h.rotates n hn hAlive.passed _ hAlive.held with hSame | ⟨secret, hRotated⟩
    · exact Keyring.mem_secrets.mpr (.inl (by rw [hSame]))
    · exact Keyring.mem_secrets.mpr (.inr (by rw [hRotated]; rfl))
  have hVouched := (hAlive.vouched_iff h hSent).mpr ⟨rfl, hGood, _, hLive, rfl⟩
  rw [answer, Gate.decision, Gate.check_of_vouched hVouched, Attempt.run]

/-- A session that goes on passes with the token, whose deadline for inactivity moves. If inactivity
matters, the client gets a cookie for it, and otherwise its cookie stays good. -/
theorem Alive.resumed (hAlive : s.Alive token n current signer) {next : Token}
    (hNext : next = s.later.policy.refresh current (s.visit (n + 1)).now)
    (hPlain : IsPlain (Gate.pairText (s.visit (n + 1)).keys next))
    (hPolicy : s.gate.policy.Writable)
    (hAnswer : s.answer (n + 1) = s.later.resume (s.visit (n + 1)).keys (s.visit (n + 1)).now
      (s.visit (n + 1)).request.target.isSecure current) :
    ∃ signer' headers, s.answer (n + 1) = .ok (.proceed next headers) ∧
      s.held (n + 1) = some (Text.Utf8.encode (Gate.pairText signer' next), signer') := by
  cases hLength : s.later.policy.maxInactive with
  | none =>
    -- No cookie is set, and the one that the client holds keeps its signer.
    have hProceed := hAnswer.trans
      ((Gate.resume_proceed_iff hAlive.wellFormed).mpr ⟨hNext, .inl ⟨hLength, rfl⟩⟩)
    have hSame : next = current := by
      rw [hNext, SessionPolicy.refresh, hLength]
    refine ⟨signer, _, hProceed, ?_⟩
    rw [Stay.held, hProceed, hAlive.held, hSame]
    rfl
  | some length =>
    have hProceed := hAnswer.trans ((Gate.resume_proceed_iff hAlive.wellFormed).mpr
      ⟨hNext, .inr ⟨by simp [hLength], Gate.admits_sessionCookie_iff.mpr
        ⟨hPlain.admits, hPolicy⟩, rfl⟩⟩)
    refine ⟨(s.visit (n + 1)).keys, _, hProceed, ?_⟩
    rw [Stay.held, hProceed, Gate.cookieSet?_issued hPlain.not_mem, Option.map_some,
      Option.some_or]

theorem Alive.succ (h : s.Replays token last) (hn : n < last)
    (hAlive : s.Alive token n current signer) (hPolicy : s.gate.policy.Writable)
    (hGood : current.isExpired (s.visit (n + 1)).now = false) :
    ∃ next signer', (∃ headers, s.answer (n + 1) = .ok (.proceed next headers)) ∧
      s.Alive token (n + 1) next signer' := by
  let next := s.later.policy.refresh current (s.visit (n + 1)).now
  have hUser : next.SameUser current := s.later.policy.sameUser_refresh _ _
  have hNext : next.WellFormed := .of_sameUser hUser hAlive.wellFormed
  have hPlain := h.isPlain_pairText hNext (hUser.trans hAlive.sameUser) (s.visit (n + 1)).keys
  have hNever : s.later.policy.maxInactive = none → current.maxInactive = -1 := fun hNone =>
    hAlive.maxInactive.trans (SessionPolicy.idleEnd_of_none hNone _)
  obtain ⟨signer', headers, hProceed, hHeld⟩ :=
    hAlive.resumed rfl hPlain hPolicy (hAlive.answer_succ h hn hGood)
  refine ⟨next, signer', ⟨headers, hProceed⟩, ?_⟩
  exact {
    passed := fun k hk => by
      rcases Nat.lt_succ_iff_lt_or_eq.mp hk with hk | rfl
      · exact hAlive.passed k hk
      · exact ⟨next, headers, hProceed⟩
    wellFormed := hNext
    sameUser := hUser.trans hAlive.sameUser
    kind := hUser.2.2 ▸ hAlive.kind
    expires := (s.later.policy.expires_refresh _ _).trans hAlive.expires
    maxInactive := SessionPolicy.maxInactive_refresh hAlive.wellFormed hNever _
    held := hHeld }

theorem Replays.alive_or_dead (h : s.Replays token last) (hn : n ≤ last) :
    (∃ current signer, s.Alive token n current signer) ∨ s.Dead n := by
  obtain ⟨hBegin, hPolicy⟩ := h.alive_zero
  -- On the visits. Only time decides whether a client that is alive remains so.
  induction n with
  | zero => exact .inl ⟨_, _, hBegin⟩
  | succ n ih =>
    rcases ih (by omega) with ⟨current, signer, hAlive⟩ | hDead
    · cases hExpired : current.isExpired (s.visit (n + 1)).now with
      | false =>
        obtain ⟨next, signer', -, hNext⟩ := hAlive.succ h hn hPolicy hExpired
        exact .inl ⟨next, signer', hNext⟩
      | true => exact .inr (hAlive.dead_succ h hn hExpired).2
    · exact .inr (hDead.succ h hn).2

/-! ### The deadlines of a session -/

theorem Replays.now_nonneg (h : s.Replays token last) (hn : n ≤ last) :
    0 ≤ (s.visit n).now.toInt := by
  induction n with
  | zero => exact h.start
  | succ n ih => exact Int.le_trans (ih (by omega)) (h.ordered n (by omega))

theorem Replays.toInt_expiry (h : s.Replays token last) :
    (s.gate.policy.expiry (s.visit 0).now).toInt =
      (s.visit 0).now.toInt + s.gate.policy.validity.millis :=
  Duration.toInt_add_wrappedMillis h.start h.validity

/-- The token that the client holds is good within the validity since the first visit and within the
inactive interval since the last one. -/
theorem Alive.isExpired_eq_false_iff (h : s.Replays token last) (hn : n ≤ last)
    (hAlive : s.Alive token n current signer) (now : Int64) :
    current.isExpired now = false ↔
      now.toInt ≤ (s.visit 0).now.toInt + s.gate.policy.validity.millis ∧
        ∀ length, s.gate.policy.maxInactive = some length →
          now.toInt ≤ (s.visit n).now.toInt + length.millis := by
  have hStart := h.start
  have hEnd := h.toInt_expiry
  have hExpires : s.gate.policy.expiry (s.visit 0).now = -1 ∨
      now ≤ s.gate.policy.expiry (s.visit 0).now ↔
      now.toInt ≤ (s.visit 0).now.toInt + s.gate.policy.validity.millis := by
    rw [Token.deadline_iff (by omega), hEnd]
  rw [Token.isExpired_eq_false_iff, hAlive.maxInactive, hAlive.expires, hExpires, and_comm]
  refine and_congr_right fun _ => ?_
  cases hLength : s.gate.policy.maxInactive with
  | none => simp [SessionPolicy.idleEnd_of_none hLength]
  | some length =>
    have hNow := h.now_nonneg hn
    have hIdle : (s.gate.policy.idleEnd (s.visit n).now).toInt =
        (s.visit n).now.toInt + length.millis := by
      rw [SessionPolicy.idleEnd, hLength]
      exact Duration.toInt_add_wrappedMillis hNow (h.inactivity length hLength n hn)
    rw [Token.deadline_iff (by omega), hIdle]
    simp

/-- A request passes exactly if the client is alive and its token has not expired. -/
theorem Alive.passes_iff (h : s.Replays token last) (hn : n < last)
    (hAlive : s.Alive token n current signer) (hPolicy : s.gate.policy.Writable) :
    s.Passes (n + 1) ↔ current.isExpired (s.visit (n + 1)).now = false := by
  cases hExpired : current.isExpired (s.visit (n + 1)).now with
  | false =>
    obtain ⟨next, -, ⟨headers, hProceed⟩, -⟩ := hAlive.succ h hn hPolicy hExpired
    exact iff_of_true ⟨next, headers, hProceed⟩ rfl
  | true => exact iff_of_false (hAlive.dead_succ h hn hExpired).1 Bool.noConfusion

/-- **How long a session lasts.** A client that replays its cookies passes at a visit exactly if it
has passed at all visits before, no more than the validity is over since the first visit and, if
inactivity matters, no more than the inactive interval since the visit before. Every token that is
handed on is that of the user who was authenticated first, and it expires when the validity is over
since then. -/
theorem lifetime (s : Stay) {token : Token} {last : ℕ} (h : s.Replays token last) :
    (∀ n < last, s.Passes (n + 1) ↔
      (∀ k < n, s.Passes (k + 1)) ∧
        (s.visit (n + 1)).now.toInt ≤ (s.visit 0).now.toInt + s.gate.policy.validity.millis ∧
        ∀ length, s.gate.policy.maxInactive = some length →
          (s.visit (n + 1)).now.toInt ≤ (s.visit n).now.toInt + length.millis) ∧
    ∀ n ≤ last, ∀ seen headers, s.answer n = .ok (.proceed seen headers) →
      seen.SameUser token ∧
        seen.expires.toInt = (s.visit 0).now.toInt + s.gate.policy.validity.millis := by
  obtain ⟨hBegin, hPolicy⟩ := h.alive_zero
  constructor
  · intro n hn
    rcases h.alive_or_dead (Nat.le_of_lt hn) with ⟨current, signer, hAlive⟩ | hDead
    · rw [hAlive.passes_iff h hn hPolicy, hAlive.isExpired_eq_false_iff h (Nat.le_of_lt hn)]
      exact (and_iff_right hAlive.passed).symm
    · exact iff_of_false (hDead.succ h hn).1 fun hAll => hDead.stopped hAll.1
  · rw [← h.toInt_expiry]
    intro n hn seen headers hProceed
    cases n with
    | zero =>
      obtain ⟨fields, hBegins⟩ := h.begins
      rw [hProceed] at hBegins
      cases hBegins
      exact ⟨.refl _, congrArg Int64.toInt hBegin.expires⟩
    | succ n =>
      rcases h.alive_or_dead (Nat.le_of_succ_le hn) with ⟨current, signer, hAlive⟩ | hDead
      · have hGood := (hAlive.passes_iff h hn hPolicy).mp ⟨seen, headers, hProceed⟩
        obtain ⟨next, signer', ⟨fields, hNext⟩, hAliveNext⟩ := hAlive.succ h hn hPolicy hGood
        rw [hProceed] at hNext
        cases hNext
        exact ⟨hAliveNext.sameUser, congrArg Int64.toInt hAliveNext.expires⟩
      · exact absurd ⟨seen, headers, hProceed⟩ (hDead.succ h hn).1

/-- The cookie of a user who has been authenticated, and the one that is set when the user is back a
second later and the secret has been rotated. -/
def firstCookie : String :=
  "auth=\"u=ann&p=ann&t=simple&i=1700000001000&e=1700036000000" ++
    "&s=3k6EdZbfmCYJIFaE06fkZTJFzGl1AmmfMwHP0Rjt7pc=\""

@[inherit_doc firstCookie]
def secondCookie : String :=
  "auth=\"u=ann&p=ann&t=simple&i=1700000002000&e=1700036000000" ++
    "&s=cYNJIA1+H5MKtlCZEp9/qhYIAsPav2dAk3aCJ4/gpUQ=\""

/-- The user is back at the last moment, and then again a millisecond too late. -/
def brief : Stay where
  gate := { Gate.credulous with policy := { maxInactive := some (.ofMillis 1000) } }
  refusing := Gate.credulous.handler
  visit
    | 0 => ⟨1700000000000, ⟨Text.Utf8.encode "secret", none⟩, .silent, Gate.claiming "user.name=ann"⟩
    | 1 => ⟨1700000001000, ⟨Text.Utf8.encode "next", Text.Utf8.encode "secret"⟩, .silent,
      Gate.sending firstCookie⟩
    | _ => ⟨1700000002001, ⟨Text.Utf8.encode "next", Text.Utf8.encode "secret"⟩, .silent,
      Gate.sending secondCookie⟩

theorem pairText_first :
    Gate.pairText (brief.visit 0).keys (.ann 1700000001000 1700036000000) = firstCookie := by
  decide +kernel

theorem pairText_second :
    Gate.pairText (brief.visit 1).keys (.ann 1700000002000 1700036000000) = secondCookie := by
  decide +kernel

theorem lifetime_brief :
    brief.Replays (.ann 1700000001000 1700036000000) 2 ∧ brief.Passes 1 ∧ ¬ brief.Passes 2 := by
  have hNone : ∀ s, none = some s → IsPlain s := fun _ h => by cases h
  have hPlain : ∀ s ∈ ["ann", "ann", "simple"], IsPlain s := by decide
  have hFields : Token.WellFormed .ann := ⟨by decide, by decide, by decide⟩
  have hUser : ∀ idle ends, (Token.ann idle ends).WellFormed :=
    fun _ _ => ⟨hFields.user, hFields.principal, hFields.kind⟩
  have hPair : ∀ keys idle, IsPlain (Gate.pairText keys (.ann idle 1700036000000)) :=
    fun keys _ => Gate.isPlain_pairText keys (hUser _ _) hPlain
  have hOutcome : (brief.gate.handler.authenticate (Gate.claiming "user.name=ann")).run .silent =
      .ok (.authenticated .ann {}) := by decide +kernel
  have hBegins : brief.answer 0 =
      .ok (.proceed (.ann 1700000001000 1700036000000)
        (.ofTexts [(Http.setCookieField, (brief.gate.sessionCookie (brief.visit 0).keys
          (brief.visit 0).now (brief.visit 0).request.target.isSecure
            (.ann 1700000001000 1700036000000)).text)])) := by
    rw [Stay.answer, Gate.decision]
    exact Gate.check_run_of_authenticated (Gate.not_vouched_claiming _ _ _ _) hOutcome (hUser _ _)
      hPlain hNone hNone (by decide +kernel) rfl
  have hFirst : brief.held 0 = some (Text.Utf8.encode firstCookie, (brief.visit 0).keys) := by
    rw [Stay.held, hBegins, Headers.ofTexts_singleton, Gate.cookieSet?_issued (hPair _ _).not_mem,
      pairText_first]
    rfl
  have hVouched : brief.later.Vouched (brief.visit 1).keys (brief.visit 1).now
      (brief.visit 1).request (.ann 1700000001000 1700036000000) := by
    have hSent : (brief.visit 1).request.Carries (Text.Utf8.encode (Gate.pairText
        (brief.visit 0).keys (.ann 1700000001000 1700036000000))) := by
      rw [pairText_first]
      rfl
    exact (Gate.vouched_pairText_iff (hUser _ _) (hPair _ _).readable? (hPair _ _).not_mem
      hSent).mpr ⟨rfl, by decide, by decide, Text.Utf8.encode "secret", by decide +kernel, rfl⟩
  have hReturns : brief.answer 1 =
      .ok (.proceed (.ann 1700000002000 1700036000000)
        (.ofTexts [(Http.setCookieField, (brief.later.sessionCookie (brief.visit 1).keys
          (brief.visit 1).now (brief.visit 1).request.target.isSecure
            (.ann 1700000002000 1700036000000)).text)])) := by
    rw [Stay.answer, Gate.decision, Gate.check_of_vouched hVouched, Attempt.run]
    refine (Gate.resume_proceed_iff (hUser _ _)).mpr
      ⟨by decide +kernel, .inr ⟨Option.some_ne_none _, ?_, rfl⟩⟩
    exact Gate.admits_sessionCookie_iff.mpr
      ⟨(hPair _ _).admits, SessionPolicy.writable_of_isPlain hNone hNone⟩
  have hSecond : brief.held 1 = some (Text.Utf8.encode secondCookie, (brief.visit 1).keys) := by
    rw [Stay.held, hReturns, Headers.ofTexts_singleton, Gate.cookieSet?_issued (hPair _ _).not_mem,
      pairText_second]
    rfl
  have hVisits : ∀ n < 2, n = 0 ∨ n = 1 := fun n hn => by omega
  have h : brief.Replays (.ann 1700000001000 1700036000000) 2 := {
    shipped := .pseudo {}
    kinds := rfl
    fresh := Gate.not_vouched_claiming _ _ _ _
    begins := ⟨_, hBegins⟩
    named := by decide
    plain := by decide
    start := by decide
    ordered := by decide
    validity := by decide
    inactivity := by
      rintro _ ⟨⟩
      decide
    stops := fun n hn => by
      refine Gate.stops_of_shipped (.pseudo {}) fun token headers hOutcome => ?_
      obtain rfl | rfl := hVisits n hn <;> cases hOutcome
    replays := fun n hn cookie hCookie => by
      obtain rfl | rfl := hVisits n hn
      · rw [hFirst, Option.mem_some] at hCookie
        rw [← hCookie]
        rfl
      · rw [hSecond, Option.mem_some] at hCookie
        rw [← hCookie]
        rfl
    rotates := fun n hn _ cookie hCookie => by
      obtain rfl | rfl := hVisits n hn
      · rw [hFirst, Option.mem_some] at hCookie
        exact .inr ⟨Text.Utf8.encode "next", by rw [← hCookie]; rfl⟩
      · rw [hSecond, Option.mem_some] at hCookie
        exact .inl (by rw [← hCookie]; rfl) }
  obtain ⟨hPasses, -⟩ := lifetime brief h
  refine ⟨h, (hPasses 0 (by decide)).mpr ⟨?_, by decide, ?_⟩, fun hLate => ?_⟩
  · exact fun k hk => absurd hk (Nat.not_lt_zero k)
  · rintro _ ⟨⟩
    decide
  · have hIdle := ((hPasses 1 (by decide)).mp hLate).2.2 _ rfl
    revert hIdle
    decide

end Stay

end SignOn
