import SignOn.Client.Basic

/-!
# Runs of a conversation

What a part of a conversation gives and leaves behind, for each way of putting parts together: the
second of two parts begins where the first has ended, and does not begin if that failed
(`run_bind`). A request is noted before it is known whether there is an answer (`run_send`). Of all
the parts only the end of a request can take a session cookie or take it away (`run_conclude`).
-/

namespace SignOn

open SignOn.Http (Request Response Target Url)
open SignOn.Text (Bytes)

/-- The answer to the last of some requests, if there is one. -/
def Surroundings.answer? (s : Surroundings) (requests : List Request) : Option Response :=
  match s.transport requests with
  | .ok response => some response
  | .error _ => none

theorem Surroundings.answer?_eq_some_iff {s : Surroundings} {requests : List Request}
    {response : Response} :
    s.answer? requests = some response ↔ s.transport requests = .ok response := by
  unfold answer?
  cases s.transport requests <;> simp

namespace Talk

variable {α β : Type} {c : Conversation}

/-! ## Putting parts together -/

theorem run_pure (a : α) : (pure a : Talk α).run c = (.ok a, c) := rfl

theorem run_bind (first : Talk α) (next : α → Talk β) :
    (first >>= next).run c =
      match first.run c with
      | (.ok a, mid) => (next a).run mid
      | (.error e, mid) => (.error e, mid) := by
  unfold run
  rw [ExceptT.run_bind, StateT.run_bind]
  generalize StateT.run (ExceptT.run first) c = outcome
  obtain ⟨_ | _, mid⟩ := outcome <;> rfl

theorem run_bind_ok {first : Talk α} {next : α → Talk β} {a : α} {mid : Conversation}
    (h : first.run c = (.ok a, mid)) : (first >>= next).run c = (next a).run mid := by
  rw [run_bind, h]

theorem run_bind_error {first : Talk α} {next : α → Talk β} {e : Error} {mid : Conversation}
    (h : first.run c = (.error e, mid)) : (first >>= next).run c = (.error e, mid) := by
  rw [run_bind, h]

theorem run_get_bind (next : Conversation → Talk β) :
    ((get : Talk Conversation) >>= next).run c = (next c).run c := rfl

theorem run_modify_bind (f : Conversation → Conversation) (next : PUnit → Talk β) :
    ((modify f : Talk PUnit) >>= next).run c = (next ()).run (f c) := rfl

theorem run_liftM (result : Result α) : (liftM result : Talk α).run c = (result, c) := by
  cases result <;> rfl

theorem run_about (url : Url) (talk : Talk α) :
    (about url talk).run c =
      ((talk.run c).1.mapError fun e => e.withUrl url.text, (talk.run c).2) := by
  unfold run about
  rw [ExceptT.run_tryCatch, StateT.run_bind]
  generalize StateT.run (ExceptT.run talk) c = outcome
  obtain ⟨_ | _, mid⟩ := outcome <;> rfl

theorem run_of_about {url : Url} {talk : Talk α} {e : Error} {mid : Conversation}
    (h : (about url talk).run c = (.error e, mid)) :
    ∃ fault, talk.run c = (.error fault, mid) ∧ e = fault.withUrl url.text := by
  rw [run_about] at h
  generalize talk.run c = outcome at h ⊢
  obtain ⟨fault | _, _⟩ := outcome
  · cases h
    exact ⟨fault, rfl, rfl⟩
  · cases h

/-! ## The parts of a conversation -/

/-- A request is noted whether there is an answer or not. -/
theorem run_send (s : Surroundings) (request : Request) :
    (send s request).run c =
      ((s.transport (c.sent ++ [request])).mapError
          fun reason => ⟨.request (.transport reason), none⟩,
        { c with sent := c.sent ++ [request] }) := by
  unfold send
  rw [run_modify_bind, run_get_bind]
  dsimp only
  cases s.transport (c.sent ++ [request]) <;> rfl

/-- An answer either changes the session cookie or takes it away. -/
theorem run_conclude (s : Surroundings) (url : Url) (response : Response) :
    (conclude s url response).run c =
      if Http.Status.isSuccess response.status then
        (.ok (), { c with cookie := c.cookie.afterAnswer s.now response.headers })
      else
        (.error ⟨if response.status = 404 then .notFound else .status response.status,
          some url.text⟩, { c with cookie := {} }) := by
  unfold conclude
  split
  · rfl
  · split <;> rfl

/-! ## Probes -/

variable {s : Surroundings} {url : Url} {target : Target}

theorem withCookie_of_unset {request : Request} {cookie : SessionCookie}
    (h : cookie.isSet = false) : withCookie request cookie = request := by
  obtain ⟨_ | _⟩ := cookie
  · rfl
  · cases h

theorem target_withCookie (request : Request) (cookie : SessionCookie) :
    (withCookie request cookie).target = request.target := by
  unfold withCookie
  split <;> rfl

theorem run_probe_of_none (h : Target.parse? url.text = none) (credentials : Option Bytes) :
    (probe s url credentials).run c = (.error ⟨.request .badTarget, none⟩, c) := by
  unfold probe
  rw [h]
  rfl

theorem run_probe_of_some (h : Target.parse? url.text = some target)
    (credentials : Option Bytes) :
    (probe s url credentials).run c =
      (send s (withCredentials (withCookie { method := "OPTIONS", target } c.cookie)
        credentials)).run c := by
  unfold probe
  rw [h]
  rfl

/-- A probe is one request, unless the URL cannot be the target of a request. -/
theorem probe_cases (s : Surroundings) (url : Url) (credentials : Option Bytes)
    (c : Conversation) :
    (∃ e, (probe s url credentials).run c = (.error e, c)) ∨
      ∃ request, (probe s url credentials).run c = (send s request).run c := by
  cases h : Target.parse? url.text with
  | none => exact .inl ⟨_, run_probe_of_none h credentials⟩
  | some target => exact .inr ⟨_, run_probe_of_some h credentials⟩

theorem run_probe_of_unset (h : Target.parse? url.text = some target)
    (hUnset : c.cookie.isSet = false) (credentials : Option Bytes) :
    (probe s url credentials).run c =
      (send s (withCredentials { method := "OPTIONS", target } credentials)).run c := by
  rw [run_probe_of_some h, withCookie_of_unset hUnset]

end Talk

end SignOn
