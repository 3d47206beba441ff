import SignOn.Endpoint.Directory
import SignOn.Endpoint.Dispatcher
import SignOn.Endpoint.Negotiator
import SignOn.Endpoint.Pseudo
import SignOn.Proofs.Session.Token

/-!
# The handlers of the library

The handlers that the library comes with are those for claimed names, for passwords and for
negotiation, and dispatchers over such handlers (`Handler.Shipped`). Whatever an authority answers
them, they make tokens that name a user, are of one of their own kinds and have no deadlines yet, or
let a request pass without a user; and they leave cookies to the gate (`Shipped.proper`).
-/

namespace SignOn

open SignOn.Http (Headers)

/-- A handler that the library comes with. -/
inductive Handler.Shipped : Handler → Prop where
  | pseudo (h : PseudoHandler) : Shipped h.handler
  | directory (h : DirectoryHandler) : Shipped h.handler
  | negotiator {E : PatternEngine} (n : Negotiator E) : Shipped n.handler
  | dispatcher (d : Dispatcher) (parts : ∀ b ∈ d.bindings, Shipped b.2) : Shipped d.handler

/-- A token as a handler for these kinds makes it. -/
def Token.MadeFor (kinds : List String) (t : Token) : Prop :=
  t.WellFormed ∧ t.kind ∈ kinds ∧ t.maxInactive = -1

/-- An outcome of a handler for these kinds of tokens that leaves cookies to the gate. -/
def Outcome.Proper (kinds : List String) : Outcome → Prop
  | .authenticated token headers =>
    (token = .anonymous ∨ token.MadeFor kinds) ∧ headers.getAll Http.setCookieField = []
  | .challenge c => c.headers.getAll Http.setCookieField = []

namespace Outcome.Proper

variable {kinds : List String}

theorem mono {more : List String} (hMore : ∀ kind ∈ kinds, kind ∈ more) {outcome : Outcome}
    (h : outcome.Proper kinds) : outcome.Proper more := by
  cases outcome with
  | authenticated token headers =>
    refine ⟨h.1.imp_right fun hMade => ?_, h.2⟩
    exact ⟨hMade.1, hMore _ hMade.2.1, hMade.2.2⟩
  | challenge c => exact h

/-- Fields that are all for the same purpose set no cookie. -/
theorem getAll_ofTexts {fields : List (String × String)}
    (h : ∀ field ∈ fields, field.1 = Http.challengeField) :
    (Headers.ofTexts fields).getAll Http.setCookieField = [] := by
  have hNe : Http.challengeField ≠ Http.setCookieField := by decide
  simp only [Headers.ofTexts, Headers.getAll, List.filterMap_map, List.filterMap_eq_nil_iff]
  intro field hField
  simp [h field hField, hNe]

theorem unauthorized (s : Scheme) : (Outcome.challenge (.unauthorized s)).Proper kinds :=
  getAll_ofTexts (by simp)

theorem anonymous : (Outcome.ofToken .anonymous).Proper kinds :=
  ⟨.inl rfl, rfl⟩

/-- A token that has been made names a user, and it has no deadlines. -/
theorem madeFor_of_make {user principal kind : String} {token : Token} (hKind : kind ∈ kinds)
    (h : Token.make user principal kind = .ok token) : token.MadeFor kinds := by
  obtain ⟨rfl, hToken⟩ := Token.make_eq_ok_iff.mp h
  exact ⟨hToken, hKind, rfl⟩

theorem of_make {user principal kind : String} {outcome : Outcome} (hKind : kind ∈ kinds)
    (h : (Token.make user principal kind).map Outcome.ofToken = .ok outcome) :
    outcome.Proper kinds := by
  obtain ⟨token, hMake, rfl⟩ := map_eq_ok_iff.mp h
  exact ⟨.inr (madeFor_of_make hKind hMake), rfl⟩

end Outcome.Proper

theorem Dispatcher.mem_distinct {seen list : List String} {s : String} :
    s ∈ Dispatcher.distinct seen list ↔ s ∈ seen ∨ s ∈ list := by
  induction list generalizing seen with
  | nil => simp [Dispatcher.distinct]
  | cons first rest ih =>
    rw [distinct, ih]
    split
    · rename_i hSeen
      have hFirst : first ∈ seen := by simpa using hSeen
      rw [List.mem_cons]
      constructor
      · rintro (h | h)
        · exact .inl h
        · exact .inr (.inr h)
      · rintro (h | rfl | h)
        · exact .inl h
        · exact .inl hFirst
        · exact .inr h
    · simp only [List.mem_append, List.mem_cons, List.not_mem_nil, or_false, or_assoc]

namespace Handler.Shipped

open Outcome.Proper

variable {request : Http.Request} {authorities : Authorities} {outcome : Outcome}

theorem proper_pseudo {h : PseudoHandler}
    (hOk : (h.handler.authenticate request).run authorities = .ok outcome) :
    outcome.Proper h.handler.tokenKinds := by
  have hOutcome : h.outcome request = .ok outcome := hOk
  unfold PseudoHandler.outcome at hOutcome
  split at hOutcome
  · exact of_make (List.mem_singleton.mpr rfl) hOutcome
  · cases hOutcome
    split
    · exact anonymous
    · exact getAll_ofTexts (by simp)

theorem proper_directory {h : DirectoryHandler}
    (hOk : (h.handler.authenticate request).run authorities = .ok outcome) :
    outcome.Proper h.handler.tokenKinds := by
  have hOutcome : (h.authenticate request).run authorities = .ok outcome := hOk
  unfold DirectoryHandler.authenticate at hOutcome
  split at hOutcome
  · unfold DirectoryHandler.authenticateUser at hOutcome
    dsimp only at hOutcome
    split at hOutcome
    · cases hOutcome
    · split at hOutcome
      · cases hOutcome
      · simp only [Attempt.run] at hOutcome
        split at hOutcome
        · exact of_make (List.mem_singleton.mpr rfl) hOutcome
        · cases hOutcome
  · cases hOutcome
    exact unauthorized _

theorem proper_negotiator {E : PatternEngine} {n : Negotiator E}
    (hOk : (n.handler.authenticate request).run authorities = .ok outcome) :
    outcome.Proper n.handler.tokenKinds := by
  have hOutcome : (n.authenticate request).run authorities = .ok outcome := hOk
  unfold Negotiator.authenticate at hOutcome
  split at hOutcome
  · cases hOutcome
    exact anonymous
  · split at hOutcome
    · cases hOutcome
      exact unauthorized _
    · split at hOutcome
      · cases hOutcome
      · simp only [Attempt.run, Negotiator.outcome] at hOutcome
        split at hOutcome
        · cases hOutcome
        · cases hOutcome
          exact getAll_ofTexts (by simp)
        · obtain ⟨token, hToken, hOutcome⟩ := bind_eq_ok_iff.mp hOutcome
          obtain ⟨name, -, hToken⟩ := bind_eq_ok_iff.mp hToken
          obtain ⟨user, -, hMake⟩ := bind_eq_ok_iff.mp hToken
          cases hOutcome
          refine ⟨.inr (madeFor_of_make (List.mem_singleton.mpr rfl) hMake), ?_⟩
          unfold Negotiator.lastField
          split
          · split
            · rfl
            · exact getAll_ofTexts (by simp)
          · rfl

/-- **What the handlers of the library find out.** Whatever the authorities answer, an outcome names
a user by a token of one of the handler's kinds without deadlines, or nobody; and it sets no
cookie. -/
theorem proper {h : Handler} (hShipped : h.Shipped)
    (hOk : (h.authenticate request).run authorities = .ok outcome) :
    outcome.Proper h.tokenKinds := by
  induction hShipped with
  | pseudo h => exact proper_pseudo hOk
  | directory h => exact proper_directory hOk
  | negotiator n => exact proper_negotiator hOk
  | dispatcher d parts ih =>
    have hOutcome : (d.authenticate request).run authorities = .ok outcome := hOk
    unfold Dispatcher.authenticate at hOutcome
    split at hOutcome
    · rename_i part hRoute
      obtain ⟨text, -, hFound⟩ := Option.bind_eq_some_iff.mp hRoute
      obtain ⟨⟨scheme, handler⟩, hFind, rfl⟩ := Option.map_eq_some_iff.mp hFound
      have hBound := List.mem_of_find?_eq_some hFind
      refine (ih _ hBound hOutcome).mono fun kind hKind => ?_
      exact Dispatcher.mem_distinct.mpr (.inr (List.mem_flatMap.mpr ⟨_, hBound, hKind⟩))
    · cases hOutcome
      refine getAll_ofTexts fun field hField => ?_
      obtain ⟨s, -, rfl⟩ := List.mem_map.mp hField
      rfl

end Handler.Shipped

end SignOn
