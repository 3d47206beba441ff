import SignOn.Proofs.Client.Offer
import SignOn.Proofs.Client.Talk
import SignOn.Proofs.Result

/-!
# The exchange of a client that negotiates

An exchange goes on in rounds. In each round the security context is given a token of the endpoint
and gives one for it; if that is not empty it is sent with a probe, and the token in the latest
answer is what the context is given next. So all that a client says can be computed from the inputs
of its security context (`probes`, `SecurityContext.outputs`), and these are determined by the
answers (`Surroundings.Feeds`). One round keeps to this (`round_cases`), hence every exchange does
(`run_rounds`), and it ends after five rounds at most.
-/

namespace SignOn

open SignOn.Http (Headers Request Response Target Url)
open SignOn.Text (Bytes)

/-! ## Probes -/

/-- A probe without credentials. -/
def bareProbe (target : Target) : Request where
  method := "OPTIONS"
  target := target

/-- A probe that carries a token for the endpoint. -/
def tokenProbe (target : Target) (token : Bytes) : Request where
  method := "OPTIONS"
  target := target
  headers := ({} : Headers).append "authorization"
    (Text.Utf8.encode ("Negotiate " ++ Text.Base64.encode token))

/-- The probes for a URL with which tokens are sent: the first one is bare, each of the others
carries a token. There are none if the URL cannot be the target of a request. -/
def probes (url : Url) (tokens : List Bytes) : List Request :=
  match Target.parse? url.text with
  | some target => bareProbe target :: tokens.map (tokenProbe target)
  | none => []

section

variable {url : Url} {target : Target}

theorem probes_of_some (h : Target.parse? url.text = some target) (tokens : List Bytes) :
    probes url tokens = bareProbe target :: tokens.map (tokenProbe target) := by
  rw [probes, h]

theorem probes_append (h : Target.parse? url.text = some target) (tokens more : List Bytes) :
    probes url (tokens ++ more) = probes url tokens ++ more.map (tokenProbe target) := by
  rw [probes_of_some h, probes_of_some h, List.map_append, List.cons_append]

theorem length_probes_le (url : Url) (tokens : List Bytes) :
    (probes url tokens).length ≤ tokens.length + 1 := by
  unfold probes
  split <;> simp

end

/-! ## What a security context does -/

namespace SecurityContext

/-- The token to be sent that a security context gives for the last of its inputs, if there is
one. -/
def output? (context : SecurityContext) (inputs : List Bytes) : Option Bytes :=
  match context inputs with
  | .ok (output, _) => if output = [] then none else some output
  | .error _ => none

/-- The tokens to be sent that a security context gives for its inputs, in order. -/
def outputs (context : SecurityContext) (inputs : List Bytes) : List Bytes :=
  ((List.range inputs.length).map fun k => output? context (inputs.take (k + 1))).filterMap id

/-- A security context is established with the last of its inputs. -/
def Establishes (context : SecurityContext) (inputs : List Bytes) : Prop :=
  ∃ output, context inputs = .ok (output, true)

variable {context : SecurityContext} {inputs : List Bytes}

theorem not_establishes {outcome : Except String (Bytes × Bool)} (h : context inputs = outcome)
    (hOpen : ∀ output, outcome ≠ .ok (output, true)) : ¬ context.Establishes inputs := by
  rintro ⟨output, hEstablished⟩
  exact hOpen output (h.symm.trans hEstablished)

theorem outputs_concat (context : SecurityContext) (inputs : List Bytes) (input : Bytes) :
    outputs context (inputs ++ [input]) =
      outputs context inputs ++ (output? context (inputs ++ [input])).toList := by
  have hEarlier : ∀ k ∈ List.range inputs.length,
      output? context ((inputs ++ [input]).take (k + 1)) =
        output? context (inputs.take (k + 1)) := by
    intro k hk
    rw [List.take_append_of_le_length (List.mem_range.mp hk)]
  rw [outputs, List.length_append, List.length_singleton, List.range_succ, List.map_append,
    List.map_congr_left hEarlier, List.filterMap_append, outputs, List.map_singleton,
    List.take_of_length_le (by simp)]
  cases output? context (inputs ++ [input]) <;> rfl

theorem length_outputs_le (context : SecurityContext) (inputs : List Bytes) :
    (outputs context inputs).length ≤ inputs.length := by
  have hAll := List.length_filterMap_le id
    ((List.range inputs.length).map fun k => output? context (inputs.take (k + 1)))
  rwa [List.length_map, List.length_range] at hAll

end SecurityContext

/-! ## What is said in an exchange -/

/-- The inputs of a security context are what an endpoint says: the first one is empty, and each of
the others is the token in the answer to the last probe that was sent before. -/
def Surroundings.Feeds (s : Surroundings) (sent : List Request) (url : Url)
    (context : SecurityContext) (inputs : List Bytes) : Prop :=
  (∀ input, inputs[0]? = some input → input = []) ∧
    ∀ k input, inputs[k + 1]? = some input → ∃ answer,
      s.answer? (sent ++ probes url (context.outputs (inputs.take (k + 1)))) = some answer ∧
        Offer.LastCarries answer.headers input

namespace Authenticator

/-- What has been said when the security context was given some inputs. -/
structure Said (s : Surroundings) (url : Url) (c : Conversation) (context : SecurityContext)
    (inputs : List Bytes) (sent : List Request) (calls : List SecurityCall) : Prop where
  sent : sent = c.sent ++ probes url (context.outputs inputs)
  calls : calls = c.calls ++ inputs.map .step
  fed : s.Feeds c.sent url context inputs

/-- An exchange goes on with an input: the empty one at the beginning, and then the token in the
latest answer. -/
structure Going (s : Surroundings) (url : Url) (c : Conversation) (context : SecurityContext)
    (inputs : List Bytes) (input : Bytes) (last : Response) (d : Conversation) : Prop where
  said : Said s url c context inputs d.sent d.calls
  cookie : d.cookie.isSet = false
  answer : s.answer? d.sent = some last
  next : inputs = [] ∧ input = [] ∨
    inputs ≠ [] ∧ ¬ context.Establishes inputs ∧ Offer.LastCarries last.headers input

/-- An exchange is over, with success exactly if the context is established and the latest answer
reports success. -/
structure Over (s : Surroundings) (url : Url) (c : Conversation) (context : SecurityContext)
    (inputs : List Bytes) (outcome : Result Unit) (d : Conversation) : Prop where
  said : Said s url c context inputs d.sent d.calls
  success : outcome = .ok () ↔ inputs ≠ [] ∧ context.Establishes inputs ∧
    ∃ last, s.answer? d.sent = some last ∧ Http.Status.isSuccess last.status = true
  failure : outcome ≠ .ok () → d.cookie.isSet = false

section

variable {s : Surroundings} {url : Url} {target : Target} {context : SecurityContext}
  {inputs : List Bytes} {input : Bytes} {last : Response} {c d : Conversation}

/-- Where the context is not established, only failure is left. -/
theorem Said.over {cookie : SessionCookie} {sent : List Request} {calls : List SecurityCall}
    (h : Said s url c context inputs sent calls) (hOpen : ¬ context.Establishes inputs)
    (hCookie : cookie.isSet = false) (e : Error) :
    Over s url c context inputs (.error e) { cookie, sent, calls } where
  said := h
  success := iff_of_false (by simp) fun hAll => hOpen hAll.2.1
  failure := fun _ => hCookie

theorem Going.feeds (h : Going s url c context inputs input last d) :
    s.Feeds c.sent url context (inputs ++ [input]) := by
  constructor
  · intro first hFirst
    obtain ⟨rfl, rfl⟩ | ⟨hNe, -, -⟩ := h.next
    · exact (Option.some.inj hFirst).symm
    · rw [List.getElem?_append_left (List.length_pos_iff.mpr hNe)] at hFirst
      exact h.said.fed.1 first hFirst
  · intro k token hToken
    by_cases hEarlier : k + 1 < inputs.length
    · rw [List.getElem?_append_left hEarlier] at hToken
      rw [List.take_append_of_le_length (Nat.le_of_lt hEarlier)]
      exact h.said.fed.2 k token hToken
    · have hLength : inputs.length = k + 1 := by
        have := (List.getElem?_eq_some_iff.mp hToken).1
        rw [List.length_append, List.length_singleton] at this
        omega
      rw [← hLength, List.getElem?_concat_length] at hToken
      rw [← hLength, List.take_left]
      obtain ⟨rfl, -⟩ | ⟨-, -, hOffer⟩ := h.next
      · cases hLength
      · cases hToken
        exact ⟨last, h.said.sent ▸ h.answer, hOffer⟩

/-- A round adds a call, and a probe if there is a token to send. -/
theorem Going.said_succ (h : Going s url c context inputs input last d)
    (hTarget : Target.parse? url.text = some target) :
    Said s url c context (inputs ++ [input])
      (d.sent ++ (context.output? (inputs ++ [input])).toList.map (tokenProbe target))
      (d.calls ++ [.step input]) where
  sent := by
    rw [h.said.sent, SecurityContext.outputs_concat, probes_append hTarget, List.append_assoc]
  calls := by
    rw [h.said.calls, List.map_append, List.append_assoc, List.map_singleton]
  fed := h.feeds

/-! ## The steps of a round -/

theorem negotiateText_eq (token : Bytes) :
    negotiateText token = "Negotiate " ++ Text.Base64.encode token := by
  rw [negotiateText, ← String.toList_inj]
  simp [Scheme.name]

/-- A token is sent if there is one, and then the answer to it is the latest. -/
theorem run_sendToken (hTarget : Target.parse? url.text = some target)
    (hUnset : d.cookie.isSet = false) (hLast : s.answer? d.sent = some last)
    {inputs : List Bytes} {output : Bytes} {isEstablished : Bool}
    (hStep : context inputs = .ok (output, isEstablished)) :
    let sent := d.sent ++ (context.output? inputs).toList.map (tokenProbe target)
    ∃ result, (sendToken s url output last).run d = (result, { d with sent }) ∧
      ∀ response, result = .ok response ↔ s.answer? sent = some response := by
  rw [SecurityContext.output?, hStep]
  dsimp only
  unfold sendToken
  by_cases hEmpty : output = []
  · subst hEmpty
    refine ⟨.ok last, ?_, ?_⟩
    · simp [Talk.run_pure]
    · simp [hLast]
  · have hNonempty : ¬ output.isEmpty = true := by simpa using hEmpty
    have hRequest : Talk.withCredentials { method := "OPTIONS", target }
        (some (Text.Utf8.encode (negotiateText output))) = tokenProbe target output := by
      rw [negotiateText_eq]
      rfl
    rw [if_neg hNonempty, if_neg hEmpty, Talk.run_probe_of_unset hTarget hUnset, hRequest,
      Talk.run_send]
    refine ⟨_, rfl, ?_⟩
    intro response
    rw [mapError_eq_ok_iff, Surroundings.answer?_eq_some_iff]
    rfl

theorem lastCarries_of_answerToken {response : Response} (h : answerToken response = .ok input) :
    Offer.LastCarries response.headers input := by
  rw [← Offer.inHeaders?_eq_token_iff]
  unfold answerToken at h
  split at h
  · cases h
  · split at h
    · rename_i bytes hOffer
      cases h
      exact hOffer
    · cases h

/-- The latest answer decides an exchange in which the context is established. -/
theorem over_of_conclude (hSaid : Said s url c context inputs d.sent d.calls) (hNe : inputs ≠ [])
    (hEstablished : context.Establishes inputs) (hLast : s.answer? d.sent = some last) :
    ∃ outcome e, (Talk.conclude s url last).run d = (outcome, e) ∧
      Over s url c context inputs outcome e := by
  have hOnly : (∃ answer, s.answer? d.sent = some answer ∧
      Http.Status.isSuccess answer.status = true) ↔ Http.Status.isSuccess last.status = true := by
    simp [hLast]
  rw [Talk.run_conclude]
  split
  · rename_i hSuccess
    refine ⟨_, _, rfl, hSaid, ?_, fun h => absurd rfl h⟩
    exact iff_of_true rfl ⟨hNe, hEstablished, hOnly.mpr hSuccess⟩
  · rename_i hFails
    refine ⟨_, _, rfl, hSaid, ?_, fun _ => rfl⟩
    exact iff_of_false (by simp) fun h => hFails (hOnly.mp h.2.2)

/-! ## Rounds -/

/-- After a round the exchange is over, or it goes on with one more input. -/
theorem round_cases (hTarget : Target.parse? url.text = some target) (n : Nat)
    (h : Going s url c context inputs input last d) :
    (∃ outcome e, (rounds s url context (n + 1) inputs input last).run d = (outcome, e) ∧
      Over s url c context (inputs ++ [input]) outcome e) ∨
    ∃ token answer e, (rounds s url context (n + 1) inputs input last).run d =
        (rounds s url context n (inputs ++ [input]) token answer).run e ∧
      Going s url c context (inputs ++ [input]) token answer e := by
  have hSaid := h.said_succ hTarget
  have hNe : inputs ++ [input] ≠ [] := by simp
  rw [rounds, Talk.run_modify_bind]
  dsimp only
  match hStep : context (inputs ++ [input]) with
  | .error reason =>
    have hOpen := SecurityContext.not_establishes hStep (by simp)
    have hOutput : context.output? (inputs ++ [input]) = none := by
      rw [SecurityContext.output?, hStep]
    rw [hOutput, Option.toList_none, List.map_nil, List.append_nil] at hSaid
    exact .inl ⟨_, _, rfl, Said.over hSaid hOpen h.cookie _⟩
  | .ok (output, isEstablished) =>
    obtain ⟨sending, hSend, hAnswer⟩ := run_sendToken (s := s)
      (d := { d with calls := d.calls ++ [.step input] }) hTarget h.cookie h.answer hStep
    dsimp only at hSend hAnswer
    cases sending with
    | error fault =>
      rw [Talk.run_bind_error hSend]
      refine .inl ⟨_, _, rfl, hSaid, iff_of_false (by simp) ?_, fun _ => h.cookie⟩
      rintro ⟨-, -, answer, hLast, -⟩
      cases (hAnswer answer).mpr hLast
    | ok answer =>
      have hLatest := (hAnswer answer).mp rfl
      rw [Talk.run_bind_ok hSend]
      cases isEstablished with
      | true => exact .inl (over_of_conclude hSaid hNe ⟨output, hStep⟩ hLatest)
      | false =>
        have hOpen := SecurityContext.not_establishes hStep (by simp)
        rw [if_neg Bool.false_ne_true]
        match hToken : answerToken answer with
        | .error fault => exact .inl ⟨_, _, rfl, Said.over hSaid hOpen h.cookie _⟩
        | .ok token =>
          refine .inr ⟨token, answer, _, rfl, hSaid, h.cookie, hLatest, ?_⟩
          exact .inr ⟨hNe, hOpen, lastCarries_of_answerToken hToken⟩

/-- Whatever the endpoint and the security context do, an exchange is over after so many rounds. -/
theorem run_rounds (hTarget : Target.parse? url.text = some target) {n : Nat}
    (h : Going s url c context inputs input last d) (hLeft : n ≠ 0 ∨ inputs ≠ []) :
    ∃ all outcome e, (rounds s url context n inputs input last).run d = (outcome, e) ∧
      Over s url c context all outcome e ∧ all.length ≤ inputs.length + n := by
  induction n generalizing inputs input last d with
  | zero =>
    have hOpen : ¬ context.Establishes inputs := by
      obtain ⟨hNone, -⟩ | ⟨-, hOpen, -⟩ := h.next
      · exact absurd hNone (hLeft.resolve_left fun hn => hn rfl)
      · exact hOpen
    exact ⟨inputs, _, d, rfl, h.said.over hOpen h.cookie _, Nat.le_refl _⟩
  | succ n ih =>
    have hLength : (inputs ++ [input]).length = inputs.length + 1 := by simp
    obtain ⟨outcome, e, hRun, hOver⟩ | ⟨token, answer, e, hRun, hGoing⟩ := round_cases hTarget n h
    · exact ⟨inputs ++ [input], outcome, e, hRun, hOver, by omega⟩
    · obtain ⟨all, outcome, e', hRest, hOver, hAll⟩ := ih hGoing (.inr (by simp))
      exact ⟨all, outcome, e', hRun.trans hRest, hOver, by omega⟩

/-! ## The handshake -/

/-- At the beginning nothing has been said but the bare probe. -/
theorem said_nil (hTarget : Target.parse? url.text = some target)
    (hSent : d.sent = c.sent ++ [bareProbe target]) (context : SecurityContext)
    (calls : List SecurityCall) : Said s url { c with calls } context [] d.sent calls where
  sent := by
    rw [hSent, probes_of_some hTarget]
    rfl
  calls := (List.append_nil calls).symm
  fed := by
    constructor
    · intro input h
      cases h
    · intro k input h
      cases h

/-- In a handshake at most one security context is asked for, the one for the service at the host of
the URL, and then the rounds begin. -/
theorem run_handshake (initiator : Initiator) (hTarget : Target.parse? url.text = some target)
    (hSent : d.sent = c.sent ++ [bareProbe target]) (hUnset : d.cookie.isSet = false)
    (hLast : s.answer? d.sent = some last) :
    ∃ context inputs outcome e, (handshake s initiator url last).run d = (outcome, e) ∧
      Over s url { c with calls := d.calls ++ (service? url).toList.map .context } context inputs
        outcome e ∧
      inputs.length ≤ maxRounds ∧
      (inputs ≠ [] → ∃ service, service? url = some service ∧ initiator service = .ok context) := by
  have hNone : ∀ (calls : List SecurityCall) (e : Error),
      Over s url { c with calls } (fun _ => .error "") [] (.error e)
        { cookie := d.cookie, sent := d.sent, calls } := by
    intro calls e
    refine ⟨said_nil hTarget hSent _ calls, ?_, fun _ => hUnset⟩
    exact iff_of_false (by simp) fun h => h.1 rfl
  unfold handshake
  cases hService : service? url with
  | none =>
    refine ⟨fun _ => .error "", [], _, _, rfl, ?_, Nat.zero_le _, fun h => absurd rfl h⟩
    rw [Option.toList_none, List.map_nil, List.append_nil]
    exact hNone d.calls _
  | some service =>
    dsimp only
    rw [Talk.run_modify_bind, Option.toList_some, List.map_singleton]
    cases hContext : initiator service with
    | error reason =>
      refine ⟨fun _ => .error "", [], _, _, rfl, ?_, Nat.zero_le _, fun h => absurd rfl h⟩
      exact hNone _ _
    | ok context =>
      have hGoing : Going s url { c with calls := d.calls ++ [.context service] } context [] [] last
          { d with calls := d.calls ++ [.context service] } :=
        ⟨said_nil hTarget hSent context _, hUnset, hLast, .inl ⟨rfl, rfl⟩⟩
      obtain ⟨inputs, outcome, e, hRun, hOver, hRounds⟩ :=
        run_rounds hTarget (n := maxRounds) hGoing (.inl (by decide))
      refine ⟨context, inputs, outcome, e, hRun, hOver, ?_, fun _ => ⟨service, rfl, hContext⟩⟩
      rwa [List.length_nil, Nat.zero_add] at hRounds

end

end Authenticator

end SignOn
