import SignOn.Proofs.Client.Quotes
import SignOn.Proofs.Client.Talk

/-!
# Executing requests

A client sends a request with its session cookie and takes over the cookie of the answer. How a
request ends decides what becomes of the cookie: it stays if there is no URL to send the request to
or no answer, an answer that reports success may set it, and any other answer takes it away
(`run_execute_of_no_url`, `run_execute_of_no_answer`, `run_execute_of_answer`). So what a client has
sent after any number of requests, and the cookie that it has then, are what these ends have made of
them one after the other (`executions_exact`).
-/

namespace SignOn

open SignOn.Http (Headers Request Response Url)

theorem Http.Status.isSuccess_iff {code : Nat} :
    isSuccess code = true ↔ 200 ≤ code ∧ code < 300 := by
  simp [isSuccess]

/-! ## Requests with a cookie -/

/-- The header fields with which a client sends its cookie: one, if the cookie may stand there. -/
def SessionCookie.fields (cookie : SessionCookie) : Headers :=
  match cookie.held with
  | some held =>
    if Headers.Admits held.text then .ofTexts [("cookie", "auth=" ++ held.text)] else {}
  | none => {}

/-- The request with all its own header fields, and behind them the session cookie. -/
def Client.carrying (request : Request) (cookie : SessionCookie) : Request :=
  { request with headers := request.headers.extend cookie.fields }

theorem Talk.withCookie_eq (request : Request) (cookie : SessionCookie) :
    withCookie request cookie = Client.carrying request cookie := by
  have hBare : request = { request with headers := request.headers.extend {} } := by
    simp [Headers.extend]
  unfold withCookie Client.carrying SessionCookie.fields
  cases hHeld : cookie.held with
  | none =>
    rw [SessionCookie.field?, hHeld]
    exact hBare
  | some held =>
    by_cases hAdmits : Headers.Admits held.text
    · rw [SessionCookie.field?_of_admits hHeld hAdmits]
      dsimp only
      rw [if_pos hAdmits]
      rfl
    · rw [SessionCookie.field?_of_not_admits hHeld hAdmits]
      dsimp only
      rw [if_neg hAdmits]
      exact hBare

namespace Client

/-! ## The ends of a request -/

section

variable {s : Surroundings} {request : Request} {c : Conversation} {url : Url}

theorem run_execute_of_no_url {fault : UrlFault}
    (h : Url.parse request.target.text = .error fault) :
    (execute s request).run c = (.error ⟨.request (.badUrl fault), none⟩, c) := by
  unfold execute
  rw [h]
  rfl

theorem run_execute_of_no_answer {reason : String}
    (h : Url.parse request.target.text = .ok url)
    (hAnswer : s.transport (c.sent ++ [carrying request c.cookie]) = .error reason) :
    (execute s request).run c =
      (.error ⟨.request (.transport reason), some url.text⟩,
        { c with sent := c.sent ++ [carrying request c.cookie] }) := by
  unfold execute
  rw [h]
  dsimp only
  rw [Talk.run_get_bind, Talk.run_bind, Talk.run_about, Talk.run_send, Talk.withCookie_eq, hAnswer]
  rfl

theorem run_execute_of_answer {response : Response}
    (h : Url.parse request.target.text = .ok url)
    (hAnswer : s.transport (c.sent ++ [carrying request c.cookie]) = .ok response) :
    (execute s request).run c =
      if Http.Status.isSuccess response.status then
        (.ok response,
          { c with
            sent := c.sent ++ [carrying request c.cookie]
            cookie := c.cookie.afterAnswer s.now response.headers })
      else
        (.error ⟨if response.status = 404 then .notFound else .status response.status,
            some url.text⟩,
          { c with sent := c.sent ++ [carrying request c.cookie], cookie := {} }) := by
  have hSend : (Talk.about url (Talk.send s (Talk.withCookie request c.cookie))).run c =
      (.ok response, { c with sent := c.sent ++ [carrying request c.cookie] }) := by
    rw [Talk.run_about, Talk.run_send, Talk.withCookie_eq, hAnswer]
    rfl
  unfold execute
  rw [h]
  dsimp only
  rw [Talk.run_get_bind, Talk.run_bind_ok hSend, Talk.run_bind, Talk.run_conclude]
  by_cases hSuccess : Http.Status.isSuccess response.status = true
  · rw [if_pos hSuccess, if_pos hSuccess]
    rfl
  · rw [if_neg hSuccess, if_neg hSuccess]

end

/-- A request that a client has executed. -/
structure Execution where
  surroundings : Surroundings
  request : Request
  before : Conversation
  result : Result Response
  after : Conversation

namespace Execution

/-- What comes of a request. -/
def of (s : Surroundings) (request : Request) (c : Conversation) : Execution :=
  let outcome := (execute s request).run c
  { surroundings := s, request, before := c, result := outcome.1, after := outcome.2 }

/-- The URL to which the request is to be sent. -/
def url (x : Execution) : Except UrlFault Url :=
  Url.parse x.request.target.text

/-- The request as it is sent. -/
def carried (x : Execution) : Request :=
  carrying x.request x.before.cookie

/-- The answer to the request once it is sent, or the reason why there is none. -/
def answer (x : Execution) : Except String Response :=
  x.surroundings.transport (x.before.sent ++ [x.carried])

/-- How a request ends: what the client is told, and what it has done and keeps then. -/
inductive Ends (x : Execution) : Prop where
  /-- There is no URL to send the request to. -/
  | unsent {fault : UrlFault} (hUrl : x.url = .error fault)
      (hResult : x.result = .error ⟨.request (.badUrl fault), none⟩)
      (hAfter : x.after = x.before)
  /-- The request is sent, but there is no answer. -/
  | unanswered {url : Url} {reason : String} (hUrl : x.url = .ok url)
      (hAnswer : x.answer = .error reason)
      (hResult : x.result = .error ⟨.request (.transport reason), some url.text⟩)
      (hAfter : x.after = { x.before with sent := x.before.sent ++ [x.carried] })
  /-- The answer does not report success. -/
  | rejected {url : Url} {response : Response} (hUrl : x.url = .ok url)
      (hAnswer : x.answer = .ok response)
      (hStatus : ¬ (200 ≤ response.status ∧ response.status < 300))
      (hResult : x.result = .error
        ⟨if response.status = 404 then .notFound else .status response.status, some url.text⟩)
      (hAfter : x.after =
        { x.before with sent := x.before.sent ++ [x.carried], cookie := {} })
  /-- The answer reports success. -/
  | accepted {url : Url} {response : Response} (hUrl : x.url = .ok url)
      (hAnswer : x.answer = .ok response)
      (hStatus : 200 ≤ response.status ∧ response.status < 300)
      (hResult : x.result = .ok response)
      (hAfter : x.after =
        { x.before with
          sent := x.before.sent ++ [x.carried]
          cookie := x.before.cookie.afterAnswer x.surroundings.now response.headers })

theorem of_eq {s : Surroundings} {request : Request} {c after : Conversation}
    {result : Result Response} (h : (execute s request).run c = (result, after)) :
    of s request c = { surroundings := s, request, before := c, result, after } := by
  rw [of, h]

theorem ends_of (s : Surroundings) (request : Request) (c : Conversation) :
    (of s request c).Ends := by
  cases hUrl : Url.parse request.target.text with
  | error fault =>
    rw [of_eq (run_execute_of_no_url hUrl)]
    exact .unsent hUrl rfl rfl
  | ok url =>
    cases hAnswer : s.transport (c.sent ++ [carrying request c.cookie]) with
    | error reason =>
      rw [of_eq (run_execute_of_no_answer hUrl hAnswer)]
      exact .unanswered hUrl hAnswer rfl rfl
    | ok response =>
      have hRun := run_execute_of_answer hUrl hAnswer
      by_cases hStatus : 200 ≤ response.status ∧ response.status < 300
      · rw [if_pos (Http.Status.isSuccess_iff.mpr hStatus)] at hRun
        rw [of_eq hRun]
        exact .accepted hUrl hAnswer hStatus rfl rfl
      · rw [if_neg fun h => hStatus (Http.Status.isSuccess_iff.mp h)] at hRun
        rw [of_eq hRun]
        exact .rejected hUrl hAnswer hStatus rfl rfl

variable {x : Execution}

theorem Ends.ok_iff (h : x.Ends) {response : Response} :
    x.result = .ok response ↔ (∃ url, x.url = .ok url) ∧ x.answer = .ok response ∧
      200 ≤ response.status ∧ response.status < 300 := by
  cases h with
  | unsent hUrl hResult => simp [hUrl, hResult]
  | unanswered _ hAnswer hResult => simp [hAnswer, hResult]
  | rejected _ hAnswer hStatus hResult =>
    refine iff_of_false (by simp [hResult]) ?_
    rintro ⟨-, hSame, hSuccess⟩
    cases hAnswer.symm.trans hSame
    exact hStatus hSuccess
  | accepted hUrl hAnswer hStatus hResult =>
    rw [hUrl, hAnswer, hResult]
    constructor
    · intro hSame
      cases hSame
      exact ⟨⟨_, rfl⟩, rfl, hStatus⟩
    · rintro ⟨-, hSame, -⟩
      cases hSame
      rfl

/-- The cookie after success is what the answer makes of it. -/
theorem Ends.cookie_of_ok (h : x.Ends) {response : Response} (hOk : x.result = .ok response) :
    x.after.cookie = x.before.cookie.afterAnswer x.surroundings.now response.headers := by
  obtain ⟨⟨url, hUrl⟩, hAnswer, hStatus⟩ := h.ok_iff.mp hOk
  cases h with
  | unsent hUrl hResult | unanswered hUrl hAnswer hResult | rejected hUrl hAnswer _ hResult =>
    cases hResult.symm.trans hOk
  | accepted _ _ _ hResult hAfter =>
    cases hResult.symm.trans hOk
    rw [hAfter]

/-- What is sent: the request, if there is a URL for it. -/
def sent (x : Execution) : List Request :=
  match x.url with
  | .ok _ => [x.carried]
  | .error _ => []

/-- What is done with the session cookie: nothing, if there is no answer. -/
def updates (x : Execution) : List SessionCookie.Update :=
  match x.url, x.answer with
  | .ok _, .ok response =>
    if Http.Status.isSuccess response.status then
      [.answer x.surroundings.now response.headers]
    else [.clear]
  | _, _ => []

theorem Ends.after_eq (h : x.Ends) :
    x.after = { x.before with
      sent := x.before.sent ++ x.sent
      cookie := x.updates.foldl SessionCookie.Update.apply x.before.cookie } := by
  unfold sent updates
  cases h with
  | unsent hUrl _ hAfter => simp [hUrl, hAfter]
  | unanswered hUrl hAnswer _ hAfter => simp [hUrl, hAnswer, hAfter]
  | rejected hUrl hAnswer hStatus _ hAfter =>
    rw [hUrl, hAnswer, hAfter]
    dsimp only
    rw [if_neg fun hSuccess => hStatus (Http.Status.isSuccess_iff.mp hSuccess)]
    rfl
  | accepted hUrl hAnswer hStatus _ hAfter =>
    rw [hUrl, hAnswer, hAfter]
    dsimp only
    rw [if_pos (Http.Status.isSuccess_iff.mpr hStatus)]
    rfl

end Execution

/-! ## Requests one after the other -/

/-- What happens to a client: it executes a request, or its session cookie is updated. -/
inductive Event where
  | execute (s : Surroundings) (request : Request)
  | update (change : SessionCookie.Update)

namespace Event

/-- The conversation after an event. -/
def next (c : Conversation) : Event → Conversation
  | execute s request => (Execution.of s request c).after
  | update change => { c with cookie := change.apply c.cookie }

/-- The requests that are executed in an event. -/
def executions (c : Conversation) : Event → List Execution
  | execute s request => [.of s request c]
  | update _ => []

/-- What is done with the session cookie in an event. -/
def updates (c : Conversation) : Event → List SessionCookie.Update
  | execute s request => (Execution.of s request c).updates
  | update change => [change]

/-- An event adds what is sent in it to the requests, and does to the session cookie what is done in
it. -/
theorem next_eq (c : Conversation) (event : Event) :
    event.next c = { c with
      sent := c.sent ++ (event.executions c).flatMap Execution.sent
      cookie := (event.updates c).foldl SessionCookie.Update.apply c.cookie } := by
  cases event with
  | execute s request =>
    have hAfter := (Execution.ends_of s request c).after_eq
    rw [executions, List.flatMap_singleton, next, updates, hAfter]
    rfl
  | update change => simp [next, executions, updates]

end Event

section

variable {α : Type} (f : Conversation → Event → List α)

/-- What comes up in the course of some events, where it is known what comes up in each of them. -/
def course (c : Conversation) : List Event → List α
  | [] => []
  | event :: events => f c event ++ course (event.next c) events

variable {f} {c : Conversation} {events : List Event}

theorem mem_course {a : α} (h : a ∈ course f c events) :
    ∃ before event after, events = before ++ event :: after ∧
      a ∈ f (before.foldl Event.next c) event := by
  induction events generalizing c with
  | nil => cases h
  | cons event events ih =>
    obtain hFirst | hLater := List.mem_append.mp h
    · exact ⟨[], event, events, rfl, hFirst⟩
    · obtain ⟨before, later, after, rfl, hIn⟩ := ih hLater
      exact ⟨event :: before, later, after, rfl, hIn⟩

end

theorem ends_of_mem {x : Execution} {c : Conversation} {events : List Event}
    (h : x ∈ course Event.executions c events) : x.Ends := by
  obtain ⟨before, event, -, -, hIn⟩ := mem_course h
  cases event with
  | execute s request =>
    rw [List.mem_singleton.mp hIn]
    exact Execution.ends_of s request (before.foldl Event.next c)
  | update change => cases hIn

theorem foldl_next_eq (c : Conversation) (events : List Event) :
    events.foldl Event.next c = { c with
      sent := c.sent ++ (course Event.executions c events).flatMap Execution.sent
      cookie := (course Event.updates c events).foldl SessionCookie.Update.apply c.cookie } := by
  induction events generalizing c with
  | nil => simp [course]
  | cons event events ih =>
    rw [List.foldl_cons, ih, course, course, List.flatMap_append, List.foldl_append,
      ← List.append_assoc]
    rw [event.next_eq c]

/-- **How a request ends decides what becomes of the session cookie.** Whatever is requested,
whatever the transport does and whatever else happens to the cookie, each request is sent once with
its own header fields and the cookie, if that may stand there, or it is not sent at all since there
is no URL for it. It succeeds if and only if it is sent and the answer reports success; then the
cookie is what the last field of the answer that sets it gives, or what it was. Any other answer
takes the cookie away and is an error about the URL, and without an answer the cookie stays as it
was. What has been sent in the end, and the cookie that is left, come from this alone. -/
theorem executions_exact (c : Conversation) (events : List Event) :
    (∀ x ∈ course Event.executions c events, x.Ends ∧
      (∀ response, x.result = .ok response ↔ (∃ url, x.url = .ok url) ∧ x.answer = .ok response ∧
        200 ≤ response.status ∧ response.status < 300) ∧
      ∀ response, x.result = .ok response →
        SessionCookie.NoneSets response.headers ∧ x.after.cookie = x.before.cookie ∨
          ∃ field cookie, SessionCookie.LastSets response.headers field cookie ∧
            x.after.cookie = .ofValue cookie.value
              (SessionCookie.lifetimeOf cookie x.surroundings.now)) ∧
    (events.foldl Event.next c).sent =
      c.sent ++ (course Event.executions c events).flatMap Execution.sent ∧
    (events.foldl Event.next c).cookie =
      (course Event.updates c events).foldl SessionCookie.Update.apply c.cookie := by
  refine ⟨?_, ?_, ?_⟩
  · intro x hx
    have hEnds := ends_of_mem hx
    refine ⟨hEnds, fun response => hEnds.ok_iff, ?_⟩
    intro response hOk
    rw [hEnds.cookie_of_ok hOk]
    obtain hNone | ⟨field, cookie, hLast⟩ := SessionCookie.noneSets_or_lastSets response.headers
    · exact .inl ⟨hNone, SessionCookie.afterAnswer_of_noneSets hNone⟩
    · exact .inr ⟨field, cookie, hLast, SessionCookie.afterAnswer_of_lastSets hLast⟩
  · rw [foldl_next_eq]
  · rw [foldl_next_eq]

/-- A cookie stays when a request cannot be sent or is not answered, and so it is sent again. It is
gone when nothing is found, even if the answer sets it. -/
theorem executions_exact_visits :
    let page : Http.Target :=
      { scheme := some "http", authority := some "localhost", path := "/" }
    let answering (status : Nat) (value : String) : Surroundings :=
      { transport := fun _ => .ok { status, headers := .ofTexts [("set-cookie", value)] }
        now := 0 }
    let silent : Surroundings := { transport := fun _ => .error "closed", now := 0 }
    let visits : List Event := [.execute (answering 200 "auth=u=ann") { target := page },
      .execute silent { target := { path := "/" } }, .execute silent { target := page },
      .execute (answering 404 "auth=u=bob") { target := page }]
    let carrying : Request :=
      { target := page, headers := .ofTexts [("cookie", "auth=\"u=ann\"")] }
    (visits.foldl Event.next {}).sent = [{ target := page }, carrying, carrying] ∧
    (visits.foldl Event.next {}).cookie = {} := by
  intro page answering silent visits carrying
  obtain ⟨-, hSent, hCookie⟩ := executions_exact {} visits
  constructor
  · rw [hSent]
    decide +kernel
  · rw [hCookie]
    decide +kernel

end Client

end SignOn
