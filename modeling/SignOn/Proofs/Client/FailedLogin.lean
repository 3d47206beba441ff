import SignOn.Proofs.Client.Attempt

/-!
# What a failed login leaves behind

A login can fail after an answer has set a session cookie. Where an exchange is under way the cookie
is taken away (`Over.failure`), and so it is by an answer to a claim that does not report success
(`Talk.run_conclude`). But nobody takes away what the answer to a first probe has set: neither if
the cookie turns out not to be a token, nor if the other way that is tried next gets no answer. So a
login that failed leaves a session behind if and only if no security provider was called and the
last answer that came was OK and set a cookie (`Client.failed_login`).
-/

namespace SignOn

open SignOn.Http (Request Response Target Url)

/-- The answer to the last of some new requests that got one. -/
def Surroundings.lastAnswer? (s : Surroundings) (sent : List Request) :
    List Request → Option Response
  | [] => none
  | request :: new => (s.lastAnswer? (sent ++ [request]) new).or (s.answer? (sent ++ [request]))

namespace Authenticator

/-- The last answer to new requests was OK and sets a session cookie where there was none. -/
def LastSets (s : Surroundings) (sent new : List Request) : Prop :=
  ∃ last, s.lastAnswer? sent new = some last ∧ last.status = 200 ∧ (stored s last).isSet = true

/-- How things stand after a failure with new requests. Without an answer the session cookie is what
it was; otherwise there is one exactly if the last answer has set it and no security provider was
called. -/
def Fails (s : Surroundings) (c c' : Conversation) (new : List Request) : Prop :=
  c'.sent = c.sent ++ new ∧
    (s.lastAnswer? c.sent new = none ∧ c'.cookie = c.cookie ∧ c'.calls = c.calls ∨
      (s.lastAnswer? c.sent new).isSome = true ∧
        (c'.cookie.isSet = true ↔ c'.calls = c.calls ∧ LastSets s c.sent new))

variable {s : Surroundings} {url : Url} {c c' : Conversation} {first : Response}

theorem fails_without_requests (s : Surroundings) (c : Conversation) : Fails s c c [] :=
  ⟨(List.append_nil _).symm, .inl ⟨rfl, rfl, rfl⟩⟩

theorem lastAnswer?_singleton (s : Surroundings) (sent : List Request) (request : Request) :
    s.lastAnswer? sent [request] = s.answer? (sent ++ [request]) := rfl

/-- A failure behind an answered request. -/
theorem Fails.cons {request : Request} {mid : Conversation} {new : List Request}
    (h : Fails s mid c' new) (hSent : mid.sent = c.sent ++ [request])
    (hCalls : mid.calls = c.calls) (hFirst : s.answer? (c.sent ++ [request]) = some first)
    (hCookie : mid.cookie.isSet = true ↔ first.status = 200 ∧ (stored s first).isSet = true) :
    Fails s c c' (request :: new) := by
  obtain ⟨hNew, hEnd⟩ := h
  have hLast : s.lastAnswer? c.sent (request :: new) =
      (s.lastAnswer? mid.sent new).or (some first) := by
    rw [Surroundings.lastAnswer?, hFirst, hSent]
  refine ⟨?_, .inr ⟨?_, ?_⟩⟩
  · rw [hNew, hSent, List.append_assoc, List.singleton_append]
  · rw [hLast]
    cases s.lastAnswer? mid.sent new <;> rfl
  · obtain ⟨hNone, hSame, hSameCalls⟩ | ⟨hSome, hIff⟩ := hEnd
    · rw [LastSets, hLast, hNone, hSame, hCookie, hSameCalls, hCalls]
      simp
    · rw [hIff, hCalls, LastSets, LastSets, hLast]
      obtain ⟨last, hLast⟩ := Option.isSome_iff_exists.mp hSome
      rw [hLast]
      simp

/-- A failure to get an answer to the only request. -/
theorem fails_without_answer {request : Request} {mid : Conversation}
    (hMid : mid = { c with sent := c.sent ++ [request] })
    (hNone : s.answer? (c.sent ++ [request]) = none) : Fails s c mid [request] := by
  subst hMid
  exact ⟨rfl, .inl ⟨hNone, rfl, rfl⟩⟩

/-- A claim that fails takes the session cookie away if there is an answer, and otherwise does
nothing with it. -/
theorem fails_of_claim {user : Option String} {e : Error}
    (hRun : (claim s url user).run c = (.error e, c')) :
    ∃ new, Fails s c c' new ∧ (c'.cookie = c.cookie ∨ c'.cookie.isSet = false) := by
  have hClaim : ∃ asked, claim s url user = (do
      let response ← Talk.probe s asked none
      Talk.conclude s asked response) := ⟨_, rfl⟩
  obtain ⟨asked, hClaim⟩ := hClaim
  rw [hClaim] at hRun
  obtain ⟨fault, hProbe⟩ | ⟨request, hProbe⟩ := Talk.probe_cases s asked none c
  · rw [Talk.run_bind_error hProbe] at hRun
    cases hRun
    exact ⟨[], fails_without_requests s c, .inl rfl⟩
  · rw [Talk.run_send] at hProbe
    cases hAnswer : s.transport (c.sent ++ [request]) with
    | error reason =>
      rw [hAnswer] at hProbe
      rw [Talk.run_bind_error hProbe] at hRun
      cases hRun
      refine ⟨[request], fails_without_answer rfl ?_, .inl rfl⟩
      rw [Surroundings.answer?, hAnswer]
    | ok response =>
      have hFirst := Surroundings.answer?_eq_some_iff.mpr hAnswer
      rw [hAnswer] at hProbe
      rw [Talk.run_bind_ok hProbe, Talk.run_conclude] at hRun
      split at hRun
      · cases hRun
      · rename_i hFailed
        cases hRun
        refine ⟨[request], ⟨rfl, .inr ⟨?_, ?_⟩⟩, .inr rfl⟩
        · rw [lastAnswer?_singleton, hFirst]
          rfl
        · refine iff_of_false (by simp [SessionCookie.isSet]) ?_
          rintro ⟨-, last, hLast, hOk, -⟩
          rw [lastAnswer?_singleton, hFirst] at hLast
          cases hLast
          rw [hOk] at hFailed
          exact hFailed (by decide)

/-- An exchange that fails leaves no session cookie. -/
theorem fails_of_handshake {initiator : Initiator} {e : Error} (hUnset : c.cookie.isSet = false)
    (hOpens : Opens s url c first) (hOffer : IsOffer first)
    (hRun : (handshake s initiator url first).run (opened c url) = (.error e, c')) :
    ∃ new, Fails s c c' new := by
  obtain ⟨target, hTarget, hFirst⟩ := id hOpens
  have hSent : (opened c url).sent = c.sent ++ [bareProbe target] := by
    rw [opened_of_some hTarget]
  obtain ⟨context, inputs, outcome, mid, hRun', hOver, -, -⟩ :=
    run_handshake initiator hTarget hSent hUnset hOpens.answer
  cases hRun'.symm.trans hRun
  refine ⟨probes url (context.outputs inputs), hOver.said.sent, .inr ⟨?_, iff_of_false ?_ ?_⟩⟩
  · rw [probes_of_some hTarget, Surroundings.lastAnswer?, hFirst]
    simp
  · simp [hOver.failure (by simp)]
  · -- Without a call there was no second probe, so the last answer is the offer.
    rintro ⟨hCalls, last, hLast, hOk, -⟩
    have hSame : c.calls ++ ((service? url).toList.map .context ++ inputs.map .step) = c.calls := by
      rw [← List.append_assoc]
      exact hOver.said.calls.symm.trans hCalls
    obtain ⟨-, hSteps⟩ := List.append_eq_nil_iff.mp (List.append_right_eq_self.mp hSame)
    rw [List.map_eq_nil_iff.mp hSteps, probes_of_some hTarget] at hLast
    have hOnly : s.answer? (c.sent ++ [bareProbe target]) = some last := hLast
    cases hFirst.symm.trans hOnly
    exact hOffer.not_ok hOk

theorem fails_of_not_opens (h : ∀ first, ¬ Opens s url c first) :
    Fails s c (opened c url) (probes url []) := by
  cases hTarget : Target.parse? url.text with
  | none =>
    rw [opened_of_none hTarget, probes, hTarget]
    exact fails_without_requests s c
  | some target =>
    rw [opened_of_some hTarget, probes_of_some hTarget]
    refine fails_without_answer rfl ?_
    cases hAnswer : s.answer? (c.sent ++ [bareProbe target]) with
    | none => rfl
    | some first => exact absurd ⟨target, hTarget, hAnswer⟩ (h first)

/-- What fails behind the first answer fails, if the cookie until then is what this answer has
set. -/
theorem Fails.of_opens {mid : Conversation} {new : List Request} (h : Fails s mid c' new)
    (hOpens : Opens s url c first) (hSent : mid.sent = (opened c url).sent)
    (hCalls : mid.calls = c.calls)
    (hCookie : mid.cookie.isSet = true ↔ first.status = 200 ∧ (stored s first).isSet = true) :
    ∃ all, Fails s c c' all := by
  obtain ⟨target, hTarget, hFirst⟩ := hOpens
  refine ⟨bareProbe target :: new, h.cons ?_ hCalls hFirst hCookie⟩
  rw [hSent, opened_of_some hTarget]

/-- A failed login leaves a session cookie exactly if the last answer has set it and no security
provider was called. -/
theorem fails_of_authenticate {authenticator : Authenticator} {e : Error}
    (hRun : (authenticate s url authenticator).run c = (.error e, c')) :
    ∃ new, Fails s c c' new := by
  induction authenticator generalizing c e with
  | pseudo user =>
    obtain ⟨new, hFails, -⟩ := fails_of_claim hRun
    exact ⟨new, hFails⟩
  | negotiate initiator fallback ih =>
    cases hSet : c.cookie.isSet with
    | true =>
      rw [run_authenticate_of_isSet hSet] at hRun
      cases hRun
    | false =>
      rw [run_authenticate_of_unset hSet] at hRun
      obtain ⟨fault, hRun, -⟩ := Talk.run_of_about hRun
      by_cases hOpens : ∃ first, Opens s url c first
      · obtain ⟨first, hFirst⟩ := hOpens
        by_cases hOk : first.status = 200
        · have hCookie : (stored s first).isSet = true ↔
              first.status = 200 ∧ (stored s first).isSet = true := by simp [hOk]
          rw [run_attempt_of_ok initiator _ hSet hFirst hOk] at hRun
          match hKind : isNegotiated (stored s first) with
          | .error _ =>
            rw [hKind] at hRun
            cases hRun
            exact (fails_without_requests s _).of_opens hFirst rfl rfl hCookie
          | .ok true =>
            rw [hKind] at hRun
            cases hRun
          | .ok false =>
            rw [hKind] at hRun
            obtain ⟨new, hFails⟩ := ih hRun
            exact hFails.of_opens hFirst rfl rfl hCookie
        · by_cases hOffer : IsOffer first
          · rw [run_attempt_of_offer initiator _ hSet hFirst hOffer] at hRun
            exact fails_of_handshake hSet hFirst hOffer hRun
          · rw [run_attempt_of_other initiator _ hSet hFirst hOk hOffer] at hRun
            obtain ⟨new, hFails⟩ := ih hRun
            refine hFails.of_opens hFirst rfl rfl (iff_of_false ?_ fun h => hOk h.1)
            simp [opened, hSet]
      · have hNone : ∀ first, ¬ Opens s url c first := fun first h => hOpens ⟨first, h⟩
        obtain ⟨_, hUnanswered⟩ := run_attempt_of_not_opens hSet hNone
        cases (hUnanswered initiator _).symm.trans hRun
        exact ⟨_, fails_of_not_opens hNone⟩

end Authenticator

/-! ## Logins -/

namespace Client

variable {s : Surroundings} {authenticator : Authenticator} {url : Url} {c c' : Conversation}

theorem run_connect (hWeb : isWeb url = true) :
    (connect s authenticator url).run c =
      if c.cookie.isSet then (.ok (), c) else (authenticator.authenticate s url).run c := by
  unfold connect
  rw [hWeb, if_neg (by simp), Talk.run_get_bind]
  split <;> rfl

theorem run_connect_of_not_web (hWeb : isWeb url = false) :
    (connect s authenticator url).run c =
      (.error ⟨.request (.otherScheme url.scheme), some url.text⟩, c) := by
  unfold connect
  rw [hWeb]
  rfl

/-- **What a failed login leaves behind.** If a login of a client without a session cookie fails,
the client has one afterwards if and only if no security provider was called and the last answer
that came was OK and set it. A client that only claims a name never has. Who has a cookie is taken
to be logged in by the next login, at once; otherwise the next login authenticates again. -/
theorem failed_login {e : Error} (hUnset : c.cookie.isSet = false)
    (hRun : (connect s authenticator url).run c = (.error e, c')) :
    ∃ new, c'.sent = c.sent ++ new ∧
      (c'.cookie.isSet = true ↔
        c'.calls = c.calls ∧ ∃ last, s.lastAnswer? c.sent new = some last ∧ last.status = 200 ∧
          (({} : SessionCookie).afterAnswer s.now last.headers).isSet = true) ∧
      (∀ user, authenticator = .pseudo user → c'.cookie.isSet = false) ∧
      ∀ s' authenticator' url', isWeb url' = true →
        (connect s' authenticator' url').run c' =
          if c'.cookie.isSet then (.ok (), c')
          else (Authenticator.authenticate s' url' authenticator').run c' := by
  cases hWeb : isWeb url with
  | false =>
    rw [run_connect_of_not_web hWeb] at hRun
    cases hRun
    refine ⟨[], (List.append_nil _).symm, iff_of_false (by simp [hUnset]) ?_, fun _ _ => hUnset,
      fun _ _ _ => run_connect⟩
    rintro ⟨-, last, hLast, -⟩
    cases hLast
  | true =>
    rw [run_connect hWeb, hUnset, if_neg Bool.false_ne_true] at hRun
    obtain ⟨new, hSent, hEnd⟩ := Authenticator.fails_of_authenticate hRun
    refine ⟨new, hSent, ?_, ?_, fun _ _ _ => run_connect⟩
    · obtain ⟨hNone, hSame, -⟩ | ⟨-, hIff⟩ := hEnd
      · rw [hSame, hUnset]
        refine iff_of_false Bool.false_ne_true ?_
        rintro ⟨-, last, hLast, -⟩
        cases hNone.symm.trans hLast
      · exact hIff
    · rintro user rfl
      obtain ⟨-, -, hSame | hGone⟩ := Authenticator.fails_of_claim hRun
      · rw [hSame, hUnset]
      · exact hGone

/-- An endpoint that offers to negotiate and then forbids what was asked for. -/
def forbidding : Surroundings where
  transport requests :=
    match requests.length with
    | 1 => .ok { status := 401, headers := .ofTexts [("www-authenticate", "Negotiate")] }
    | 2 => .ok { status := 403, headers := .ofTexts [("set-cookie", "auth=\"u=ann\"")] }
    | _ => .error "no more answers"
  now := 0

/-- An endpoint that answers the first request with OK and a cookie that is no token. -/
def misleading : Surroundings where
  transport requests :=
    match requests.length with
    | 1 => .ok { status := 200, headers := .ofTexts [("set-cookie", "auth=\"expired\"")] }
    | _ => .error "no more answers"
  now := 0

/-- A client that could negotiate, and otherwise claims a name. -/
def eager : Authenticator :=
  .negotiate (fun _ => .ok fun _ => .ok ([1, 2], true)) (.pseudo (some "ann"))

/-- A client that is forbidden what it asked for after an exchange has no session cookie, and the
next login authenticates again. -/
theorem failed_login_forbidden :
    let target : Target := { scheme := some "http", authority := some "localhost", path := "/" }
    let after : Conversation :=
      { sent := [bareProbe target, tokenProbe target [1, 2]]
        calls := [.context "HTTP/localhost", .step []] }
    (connect forbidding eager Authenticator.localUrl).run {} =
      (.error ⟨.status 403, some "http://localhost/"⟩, after) ∧
    after.cookie.isSet = false ∧
    (connect forbidding eager Authenticator.localUrl).run after =
      (eager.authenticate forbidding Authenticator.localUrl).run after := by
  intro target after
  have hRun : (connect forbidding eager Authenticator.localUrl).run {} =
      (.error ⟨.status 403, some "http://localhost/"⟩, after) := by
    decide +kernel
  obtain ⟨new, -, hCookie, -, hNext⟩ := failed_login rfl hRun
  have hGone : after.cookie.isSet = false := by
    rw [Bool.eq_false_iff, Ne, hCookie]
    rintro ⟨hCalls, -⟩
    cases hCalls
  refine ⟨hRun, hGone, ?_⟩
  rw [hNext forbidding eager Authenticator.localUrl (by decide), hGone]
  rfl

/-- A login fails since the cookie is no token, but the cookie stays: the next login sends nothing
and succeeds. -/
theorem failed_login_misleading :
    let after : Conversation :=
      { cookie := { held := some { text := "\"expired\"" } }
        sent := [bareProbe
          { scheme := some "http", authority := some "localhost", path := "/" }] }
    ({} : Conversation).cookie.isSet = false ∧
    (connect misleading eager Authenticator.localUrl).run {} =
      (.error ⟨.decode .badPair, some "http://localhost/"⟩, after) ∧
    after.cookie.isSet = true ∧
    (connect misleading eager Authenticator.localUrl).run after = (.ok (), after) := by
  decide +kernel

end Client

end SignOn
