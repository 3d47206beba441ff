import Mathlib.Tactic.Common
import SignOn.Proofs.Client.Exchange

/-!
# What a client does that negotiates

The first answer of the endpoint decides what a client does: it is known already, it begins an
exchange, or it goes another way (`run_attempt_of_ok`, `run_attempt_of_offer`,
`run_attempt_of_other`). What it does by itself does not depend on that other way. So there are six
probes and five inputs at most, all of them as an exchange has them, and the other way is taken in
just those cases in which the endpoint neither negotiates nor has done so
(`Authenticator.exchange_bounded`).
-/

namespace SignOn.Authenticator

open SignOn.Http (Request Response Target Url)
open SignOn.Text (Bytes)

/-! ## The first answer -/

/-- What a client that negotiates does if it has no cookie; `other` is the other way. -/
def attempt (s : Surroundings) (initiator : Initiator) (url : Url) (other : Talk Unit) :
    Talk Unit := do
  let first ← Talk.probe s url none
  match ← course s url first with
  | .finished => return ()
  | .handshake => handshake s initiator url first
  | .fallback => other

/-- The endpoint answers the first probe. -/
def Opens (s : Surroundings) (url : Url) (c : Conversation) (first : Response) : Prop :=
  ∃ target, Target.parse? url.text = some target ∧
    s.answer? (c.sent ++ [bareProbe target]) = some first

/-- The conversation after the first probe. -/
def opened (c : Conversation) (url : Url) : Conversation :=
  { c with sent := c.sent ++ probes url [] }

/-- The session cookie that a first answer leaves behind where there was none. -/
def stored (s : Surroundings) (first : Response) : SessionCookie :=
  ({} : SessionCookie).afterAnswer s.now first.headers

/-- The endpoint asks for credentials and offers to negotiate. -/
def IsOffer (first : Response) : Prop :=
  first.status = 401 ∧ (Offer.inHeaders? first.headers).isSome = true

variable {s : Surroundings} {url : Url} {c : Conversation} {first : Response}

theorem Opens.unique {other : Response} (h : Opens s url c first) (h' : Opens s url c other) :
    first = other := by
  obtain ⟨target, hTarget, hFirst⟩ := h
  obtain ⟨_, hTarget', hOther⟩ := h'
  cases hTarget.symm.trans hTarget'
  exact Option.some.inj (hFirst.symm.trans hOther)

theorem IsOffer.not_ok (h : IsOffer first) : first.status ≠ 200 := by
  have hStatus := h.1
  omega

theorem opened_of_none (hTarget : Target.parse? url.text = none) : opened c url = c := by
  rw [opened, probes, hTarget, List.append_nil]

theorem opened_of_some {target : Target} (hTarget : Target.parse? url.text = some target) :
    opened c url = { c with sent := c.sent ++ [bareProbe target] } := by
  rw [opened, probes_of_some hTarget, List.map_nil]

theorem Opens.answer (h : Opens s url c first) : s.answer? (opened c url).sent = some first := by
  obtain ⟨target, hTarget, hFirst⟩ := h
  rw [opened_of_some hTarget]
  exact hFirst

theorem run_bareProbe_of_some {target : Target} (hTarget : Target.parse? url.text = some target)
    (hUnset : c.cookie.isSet = false) :
    (Talk.probe s url none).run c =
      ((s.transport (c.sent ++ [bareProbe target])).mapError
        fun reason => ⟨.request (.transport reason), none⟩, opened c url) := by
  rw [Talk.run_probe_of_unset hTarget hUnset, opened_of_some hTarget]
  exact Talk.run_send s (bareProbe target)

theorem run_bareProbe_of_opens (hUnset : c.cookie.isSet = false) (h : Opens s url c first) :
    (Talk.probe s url none).run c = (.ok first, opened c url) := by
  obtain ⟨target, hTarget, hFirst⟩ := h
  rw [run_bareProbe_of_some hTarget hUnset, Surroundings.answer?_eq_some_iff.mp hFirst]
  rfl

theorem run_bareProbe_of_not_opens (hUnset : c.cookie.isSet = false)
    (h : ∀ first, ¬ Opens s url c first) :
    ∃ e, (Talk.probe s url none).run c = (.error e, opened c url) := by
  cases hTarget : Target.parse? url.text with
  | none =>
    rw [Talk.run_probe_of_none hTarget, opened_of_none hTarget]
    exact ⟨_, rfl⟩
  | some target =>
    rw [run_bareProbe_of_some hTarget hUnset]
    cases hAnswer : s.transport (c.sent ++ [bareProbe target]) with
    | error reason => exact ⟨_, rfl⟩
    | ok first =>
      have hFirst := Surroundings.answer?_eq_some_iff.mpr hAnswer
      exact absurd ⟨target, hTarget, hFirst⟩ (h first)

/-! ## Ways -/

theorem run_authenticate_of_isSet {initiator : Initiator} {fallback : Authenticator}
    (h : c.cookie.isSet = true) :
    (authenticate s url (.negotiate initiator fallback)).run c = (.ok (), c) := by
  rw [authenticate, Talk.run_get_bind, if_pos h]
  rfl

theorem run_authenticate_of_unset {initiator : Initiator} {fallback : Authenticator}
    (h : c.cookie.isSet = false) :
    (authenticate s url (.negotiate initiator fallback)).run c =
      (Talk.about url (attempt s initiator url (authenticate s url fallback))).run c := by
  rw [authenticate, Talk.run_get_bind, if_neg (by simp [h])]
  rfl

section

variable (initiator : Initiator) (other : Talk Unit)

theorem run_attempt_of_not_opens (hUnset : c.cookie.isSet = false)
    (h : ∀ first, ¬ Opens s url c first) :
    ∃ e, ∀ initiator other,
      (attempt s initiator url other).run c = (.error e, opened c url) := by
  obtain ⟨e, hProbe⟩ := run_bareProbe_of_not_opens hUnset h
  exact ⟨e, fun _ _ => Talk.run_bind_error hProbe⟩

/-- A client that the endpoint has answered with OK keeps the cookie, and which way it goes on
depends on the kind of this cookie. -/
theorem run_attempt_of_ok (hUnset : c.cookie.isSet = false) (h : Opens s url c first)
    (hOk : first.status = 200) :
    (attempt s initiator url other).run c =
      match isNegotiated (stored s first) with
      | .error e => (.error e, { opened c url with cookie := stored s first })
      | .ok true => (.ok (), { opened c url with cookie := stored s first })
      | .ok false => other.run { opened c url with cookie := stored s first } := by
  have hNone : c.cookie = {} := by
    obtain ⟨⟨_ | _⟩, _, _⟩ := c
    · rfl
    · cases hUnset
  have hConclude : (Talk.conclude s url first).run (opened c url) =
      (.ok (), { opened c url with cookie := stored s first }) := by
    rw [Talk.run_conclude, hOk, if_pos (by decide), stored, ← hNone]
    rfl
  rw [attempt, Talk.run_bind_ok (run_bareProbe_of_opens hUnset h), Talk.run_bind, course,
    if_pos hOk, Talk.run_bind_ok hConclude, Talk.run_get_bind, Talk.run_bind, Talk.run_liftM]
  match isNegotiated (stored s first) with
  | .error e => rfl
  | .ok true => rfl
  | .ok false => rfl

/-- It begins the handshake if it is asked for credentials and offered to negotiate. -/
theorem run_attempt_of_offer (hUnset : c.cookie.isSet = false) (h : Opens s url c first)
    (hOffer : IsOffer first) :
    (attempt s initiator url other).run c =
      (handshake s initiator url first).run (opened c url) := by
  have hNotOk := hOffer.not_ok
  rw [IsOffer] at hOffer
  rw [attempt, Talk.run_bind_ok (run_bareProbe_of_opens hUnset h), Talk.run_bind, course,
    if_neg hNotOk, if_pos hOffer]
  rfl

/-- With any other answer it goes the other way. -/
theorem run_attempt_of_other (hUnset : c.cookie.isSet = false) (h : Opens s url c first)
    (hNotOk : first.status ≠ 200) (hNoOffer : ¬ IsOffer first) :
    (attempt s initiator url other).run c = other.run (opened c url) := by
  rw [IsOffer] at hNoOffer
  rw [attempt, Talk.run_bind_ok (run_bareProbe_of_opens hUnset h), Talk.run_bind, course,
    if_neg hNotOk, if_neg hNoOffer]
  rfl

end

/-! ## What a client does by itself -/

/-- A client that gets this first answer goes another way: it is answered with OK but has no cookie
or one of another kind than a negotiation gives, or it is answered with neither OK nor an offer. -/
def IsOther (s : Surroundings) (first : Response) : Prop :=
  first.status = 200 ∧ (∀ value, (stored s first).value? = some value →
    ∃ token, Token.parse value = .ok token ∧ token.kind ∉ ["kerberos", "kerberos-dt"]) ∨
  first.status ≠ 200 ∧ ¬ IsOffer first

/-- What a client has done by itself when it was given some inputs for its security context. -/
structure OwnPart (s : Surroundings) (initiator : Initiator) (url : Url) (c : Conversation)
    (context : SecurityContext) (inputs : List Bytes) (mid : Conversation) : Prop where
  /-- The probes carry the tokens of the context that are not empty, one each, in order. -/
  sent : mid.sent = c.sent ++ probes url (context.outputs inputs)
  /-- The security provider is asked for one context at most, and this is given the inputs. -/
  calls : ∃ services, services <+: (service? url).toList ∧
    mid.calls = c.calls ++ services.map .context ++ inputs.map .step
  origin : inputs ≠ [] → (∃ first, Opens s url c first ∧ IsOffer first) ∧
    ∃ service, service? url = some service ∧ initiator service = .ok context
  fed : s.Feeds c.sent url context inputs
  rounds : inputs.length ≤ 5

theorem isNegotiated_eq_ok_false_iff {cookie : SessionCookie} :
    isNegotiated cookie = .ok false ↔
      ∀ value, cookie.value? = some value →
        ∃ token, Token.parse value = .ok token ∧ token.kind ∉ ["kerberos", "kerberos-dt"] := by
  unfold isNegotiated
  cases cookie.value? with
  | none => simp
  | some value => simp [map_eq_ok_iff, negotiatedKinds]

theorem ownPart_nil {initiator : Initiator} {mid : Conversation}
    (hSent : mid.sent = (opened c url).sent) (hCalls : mid.calls = c.calls) :
    OwnPart s initiator url c (fun _ => .error "") [] mid where
  sent := hSent
  calls := ⟨[], List.nil_prefix, by simp [hCalls]⟩
  origin := fun h => absurd rfl h
  fed := by
    constructor
    · intro input h
      cases h
    · intro k input h
      cases h
  rounds := Nat.zero_le _

theorem not_isOther_of_offer (h : IsOffer first) : ¬ IsOther s first := by
  rintro (⟨hOk, -⟩ | ⟨-, hNoOffer⟩)
  · exact h.not_ok hOk
  · exact hNoOffer h

/-- What a client does by itself and how it ends, after the endpoint has answered. -/
theorem attempt_cases (initiator : Initiator) (hUnset : c.cookie.isSet = false)
    (h : Opens s url c first) :
    ∃ context inputs mid outcome, OwnPart s initiator url c context inputs mid ∧
      (IsOther s first → inputs = [] ∧
        ∀ other, (attempt s initiator url other).run c = other.run mid) ∧
      (¬ IsOther s first → ∀ other, (attempt s initiator url other).run c = (outcome, mid)) ∧
      (IsOffer first → (outcome = .ok () ↔ inputs ≠ [] ∧ context.Establishes inputs ∧
        ∃ last, s.answer? mid.sent = some last ∧ Http.Status.isSuccess last.status = true)) := by
  by_cases hOk : first.status = 200
  · have hRun := fun other => run_attempt_of_ok initiator other hUnset h hOk
    have hOther : IsOther s first ↔ isNegotiated (stored s first) = .ok false := by
      rw [isNegotiated_eq_ok_false_iff, IsOther]
      simp [hOk]
    have hOffer : ¬ IsOffer first := fun hOffer => hOffer.not_ok hOk
    rw [hOther]
    have hOwn : OwnPart s initiator url c (fun _ => .error "") []
        { opened c url with cookie := stored s first } := ownPart_nil rfl rfl
    match hKind : isNegotiated (stored s first) with
    | .error e =>
      refine ⟨_, [], _, .error e, hOwn, nofun, ?_, fun hIs => absurd hIs hOffer⟩
      intro _ other
      rw [hRun, hKind]
    | .ok true =>
      refine ⟨_, [], _, .ok (), hOwn, nofun, ?_, fun hIs => absurd hIs hOffer⟩
      intro _ other
      rw [hRun, hKind]
    | .ok false =>
      refine ⟨_, [], _, .ok (), hOwn, fun _ => ⟨rfl, ?_⟩, fun hNot => absurd rfl hNot,
        fun hIs => absurd hIs hOffer⟩
      intro other
      rw [hRun, hKind]
  · by_cases hOffer : IsOffer first
    · have hNot := not_isOther_of_offer (s := s) hOffer
      obtain ⟨target, hTarget, -⟩ := id h
      have hSent : (opened c url).sent = c.sent ++ [bareProbe target] := by
        rw [opened_of_some hTarget]
      obtain ⟨context, inputs, outcome, mid, hRun, hOver, hRounds, hOrigin⟩ :=
        run_handshake initiator hTarget hSent hUnset h.answer
      refine ⟨context, inputs, mid, outcome, ?_, fun hIs => absurd hIs hNot, ?_, fun _ =>
        hOver.success⟩
      · exact {
          sent := hOver.said.sent
          calls := ⟨_, List.prefix_rfl, hOver.said.calls⟩
          origin := fun hNe => ⟨⟨first, h, hOffer⟩, hOrigin hNe⟩
          fed := hOver.said.fed
          rounds := hRounds }
      · intro _ other
        rw [run_attempt_of_offer initiator other hUnset h hOffer, hRun]
    · have hRun := fun other => run_attempt_of_other initiator other hUnset h hOk hOffer
      exact ⟨_, [], opened c url, .ok (), ownPart_nil rfl rfl, fun _ => ⟨rfl, hRun⟩,
        fun hNot => absurd (.inr ⟨hOk, hOffer⟩) hNot, fun hIs => absurd hIs hOffer⟩

theorem OwnPart.length_sent_le {initiator : Initiator} {context : SecurityContext}
    {inputs : List Bytes} {mid : Conversation} (h : OwnPart s initiator url c context inputs mid) :
    mid.sent.length ≤ c.sent.length + 6 := by
  have hProbes := length_probes_le url (context.outputs inputs)
  have hOutputs := context.length_outputs_le inputs
  have hRounds := h.rounds
  rw [h.sent, List.length_append]
  omega

/-- **The exchange of a client that negotiates is bounded, and it goes by what is said.** Whatever
the transport and the security provider do, a client without a cookie sends six probes at most and
gives its security context five inputs at most: first the empty one, then each time the token in the
latest answer; and each further probe carries the latest token of the context that is not empty. It
goes another way if and only if the first answer is OK and leaves no cookie or one of a kind that is
not negotiated, or is neither OK nor an offer to negotiate. If it is an offer, the client succeeds
if and only if the context is established and the latest answer reports success. All failures are
about the URL. -/
theorem exchange_bounded (s : Surroundings) (initiator : Initiator) (url : Url)
    {c : Conversation} (hUnset : c.cookie.isSet = false) :
    ∃ context inputs mid outcome, OwnPart s initiator url c context inputs mid ∧
      mid.sent.length ≤ c.sent.length + 6 ∧
      ((∃ first, Opens s url c first ∧ IsOther s first) → inputs = [] ∧ ∀ fallback,
        (authenticate s url (.negotiate initiator fallback)).run c =
          (Talk.about url (authenticate s url fallback)).run mid) ∧
      (¬ (∃ first, Opens s url c first ∧ IsOther s first) → ∀ fallback,
        (authenticate s url (.negotiate initiator fallback)).run c = (outcome, mid)) ∧
      ((∃ first, Opens s url c first ∧ IsOffer first) →
        ¬ (∃ first, Opens s url c first ∧ IsOther s first) ∧
        (outcome = .ok () ↔ inputs ≠ [] ∧ context.Establishes inputs ∧
          ∃ last, s.answer? mid.sent = some last ∧ 200 ≤ last.status ∧ last.status < 300)) ∧
      ∀ fallback e c', (authenticate s url (.negotiate initiator fallback)).run c =
        (.error e, c') → e.url = some url.text := by
  have hUrl : ∀ fallback e c', (authenticate s url (.negotiate initiator fallback)).run c =
      (.error e, c') → e.url = some url.text := by
    intro fallback e c' hRun
    rw [run_authenticate_of_unset hUnset] at hRun
    obtain ⟨fault, -, rfl⟩ := Talk.run_of_about hRun
    rfl
  by_cases hOpens : ∃ first, Opens s url c first
  · obtain ⟨first, hFirst⟩ := hOpens
    have hOther : (∃ first, Opens s url c first ∧ IsOther s first) ↔ IsOther s first :=
      ⟨fun ⟨_, hSame, hIs⟩ => hFirst.unique hSame ▸ hIs, fun hIs => ⟨first, hFirst, hIs⟩⟩
    obtain ⟨context, inputs, mid, outcome, hOwn, hFalls, hEnds, hSuccess⟩ :=
      attempt_cases initiator hUnset hFirst
    rw [hOther]
    refine ⟨context, inputs, mid, outcome.mapError fun e => e.withUrl url.text, hOwn,
      hOwn.length_sent_le, ?_, ?_, ?_, hUrl⟩
    · intro hIs
      obtain ⟨hNone, hRun⟩ := hFalls hIs
      refine ⟨hNone, ?_⟩
      intro fallback
      rw [run_authenticate_of_unset hUnset, Talk.run_about, Talk.run_about, hRun]
    · intro hNot fallback
      rw [run_authenticate_of_unset hUnset, Talk.run_about, hEnds hNot]
    · rintro ⟨other, hOpens, hOffer⟩
      rw [← hFirst.unique hOpens] at hOffer
      refine ⟨not_isOther_of_offer hOffer, ?_⟩
      rw [mapError_eq_ok_iff, hSuccess hOffer]
      simp [Http.Status.isSuccess]
  · have hNone : ∀ first, ¬ Opens s url c first := fun first h => hOpens ⟨first, h⟩
    obtain ⟨e, hRun⟩ := run_attempt_of_not_opens hUnset hNone
    have hOwn : OwnPart s initiator url c (fun _ => .error "") [] (opened c url) :=
      ownPart_nil rfl rfl
    refine ⟨_, [], _, .error (e.withUrl url.text), hOwn, hOwn.length_sent_le, ?_, ?_, ?_, hUrl⟩
    · rintro ⟨first, h, -⟩
      exact absurd h (hNone first)
    · intro _ fallback
      rw [run_authenticate_of_unset hUnset, Talk.run_about, hRun]
      rfl
    · rintro ⟨first, h, -⟩
      exact absurd h (hNone first)

/-- The URL of a service on this host. -/
def localUrl : Url where
  scheme := "http"
  host := some (.name "localhost")
  path := .segments [""]

/-- An endpoint that offers to negotiate, answers the first token with another one and takes
whatever it is sent then. -/
def welcoming : Surroundings where
  transport requests :=
    match requests.length with
    | 1 => .ok { status := 401, headers := .ofTexts [("www-authenticate", "Negotiate")] }
    | 2 => .ok { status := 401, headers := .ofTexts [("www-authenticate", "negotiate CQ==")] }
    | 3 => .ok { status := 200, headers := .ofTexts [("set-cookie", "auth=\"u=ann\"")] }
    | _ => .error "no more answers"
  now := 0

/-- A security context that is established with the token of the endpoint. -/
def hesitant : SecurityContext
  | [[]] => .ok ([1, 2], false)
  | [[], [9]] => .ok ([3], true)
  | _ => .error "no such token"

/-- A client gives its context the token that comes back, and sends three probes, whatever else it
could do. -/
theorem exchange_bounded_fed_back :
    let initiator : Initiator := fun _ => .ok hesitant
    let target : Target := { scheme := some "http", authority := some "localhost", path := "/" }
    let mid : Conversation :=
      { cookie := { held := some { text := "\"u=ann\"" } }
        sent := [bareProbe target, tokenProbe target [1, 2], tokenProbe target [3]]
        calls := [.context "HTTP/localhost", .step [], .step [9]] }
    (authenticate welcoming localUrl (.negotiate initiator (.pseudo none))).run {} =
      (.ok (), mid) ∧
    ∃ context inputs, OwnPart welcoming initiator localUrl {} context inputs mid ∧
      inputs = [[], [9]] ∧ context.Establishes inputs := by
  intro initiator target mid
  have hRun : (authenticate welcoming localUrl (.negotiate initiator (.pseudo none))).run {} =
      (.ok (), mid) := by
    decide +kernel
  have hOffer : ∃ first, Opens welcoming localUrl {} first ∧ IsOffer first :=
    ⟨_, ⟨target, by decide +kernel, rfl⟩, rfl, by decide +kernel⟩
  obtain ⟨context, inputs, mid', outcome, hOwn, -, -, hEnds, hSuccess, -⟩ :=
    exchange_bounded welcoming initiator localUrl (c := {}) rfl
  obtain ⟨hNot, hOk⟩ := hSuccess hOffer
  have hSame := (hEnds hNot (.pseudo none)).symm.trans hRun
  cases hSame
  obtain ⟨hNe, hEstablished, -⟩ := hOk.mp rfl
  have hInputs : inputs = [[], [9]] := by
    obtain ⟨services, hServices, hCalls⟩ := hOwn.calls
    have hOne : services.length ≤ 1 := hServices.length_le
    match services with
    | [] => cases inputs <;> simp [mid] at hCalls
    | [service] =>
      have hSteps : inputs.map SecurityCall.step = [.step [], .step [9]] := by
        simpa [mid, eq_comm] using (List.cons.inj hCalls).2
      simpa [List.map_eq_cons_iff] using hSteps
    | _ :: _ :: _ => simp at hOne
  exact ⟨hRun, context, inputs, hOwn, hInputs, hEstablished⟩

end SignOn.Authenticator
