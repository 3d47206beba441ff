import Mathlib.Data.List.Nodup
import Mathlib.Data.List.Perm.Basic
import SignOn.Endpoint.Directory
import SignOn.Endpoint.Dispatcher
import SignOn.Endpoint.Negotiator
import SignOn.Proofs.Endpoint.Scheme
import SignOn.Proofs.Result

/-!
# Where a request goes

A dispatcher binds each scheme once: a binding is refused exactly if the scheme is none or has a
handler (`Dispatcher.bind_eq_ok_iff`). Since credentials are for one scheme at most, it does not
matter in which order handlers are bound: a request goes to the one handler that is bound to the
scheme of its credentials, and that handler finds credentials of its scheme there
(`Dispatcher.Routes`). The other handlers play no part, as can be seen from dispatchers with other
handlers in their place (`Dispatcher.dispatch_exact`).
-/

namespace SignOn

open SignOn.Http (Headers Request)

namespace Dispatcher

variable {d e : Dispatcher} {name : String} {handler : Handler} {request : Request} {s : Scheme}

/-! ## Binding -/

theorem mem_schemes_iff : s ∈ d.schemes ↔ ∃ handler, (s, handler) ∈ d.bindings := by
  simp [schemes]

theorem schemes_append (bindings more : List (Scheme × Handler)) :
    (⟨bindings ++ more⟩ : Dispatcher).schemes = schemes ⟨bindings⟩ ++ schemes ⟨more⟩ := by
  simp [schemes]

theorem any_bound_iff : (d.bindings.any fun (bound, _) => bound == s) = true ↔ s ∈ d.schemes := by
  simp [schemes]

theorem bind_eq_ok_iff :
    d.bind name handler = .ok e ↔
      ∃ s, s.IsNamed name ∧ s ∉ d.schemes ∧ e = ⟨d.bindings ++ [(s, handler)]⟩ := by
  unfold bind
  simp only [SignOn.bind_eq_ok_iff, Scheme.parse_eq_ok_iff, misconfigured, guard_eq_ok_iff,
    any_bound_iff, Except.ok.injEq]
  constructor
  · rintro ⟨s, hNamed, hFree, rfl⟩
    exact ⟨s, hNamed, hFree, rfl⟩
  · rintro ⟨s, hNamed, hFree, rfl⟩
    exact ⟨s, hNamed, hFree, rfl⟩

/-- A binding is refused exactly if its scheme is none or has a handler. -/
theorem bind_eq_error_iff :
    (∃ fault, d.bind name handler = .error fault) ↔
      (∀ s : Scheme, ¬ s.IsNamed name) ∨ ∃ s ∈ d.schemes, s.IsNamed name := by
  have hOk : (∃ e, d.bind name handler = .ok e) ↔ ∃ s, s.IsNamed name ∧ s ∉ d.schemes := by
    simp only [bind_eq_ok_iff]
    constructor
    · rintro ⟨_, s, hNamed, hFree, -⟩
      exact ⟨s, hNamed, hFree⟩
    · rintro ⟨s, hNamed, hFree⟩
      exact ⟨_, s, hNamed, hFree, rfl⟩
  have hError : (∃ fault, d.bind name handler = .error fault) ↔
      ¬ ∃ e, d.bind name handler = .ok e := by
    cases d.bind name handler <;> simp
  rw [hError, hOk]
  constructor
  · intro h
    by_cases hAny : ∃ s : Scheme, s.IsNamed name
    · obtain ⟨s, hNamed⟩ := hAny
      by_cases hFree : s ∈ d.schemes
      · exact .inr ⟨s, hFree, hNamed⟩
      · exact absurd ⟨s, hNamed, hFree⟩ h
    · exact .inl (not_exists.mp hAny)
  · rintro (hNone | ⟨t, hTaken, hNamed⟩) ⟨s, hNamed', hFree⟩
    · exact hNone s hNamed'
    · exact hFree (hNamed'.unique hNamed ▸ hTaken)

/-- Items that each stand for one more binding are all bound if their schemes differ from each other
and from those that have a handler. `Gives` says what comes out of a computation. -/
theorem foldlM_bind_iff {α : Type} {m : Type → Type} [Monad m]
    (Gives : m Dispatcher → Dispatcher → Prop)
    (hPure : ∀ d e, Gives (pure d) e ↔ d = e)
    (hBind : ∀ x (f : Dispatcher → m Dispatcher) e,
      Gives (x >>= f) e ↔ ∃ d, Gives x d ∧ Gives (f d) e)
    {step : Dispatcher → α → m Dispatcher} {Stands : α → Scheme × Handler → Prop}
    (hStep : ∀ d item e, Gives (step d item) e ↔
      ∃ b, Stands item b ∧ b.1 ∉ d.schemes ∧ e = ⟨d.bindings ++ [b]⟩)
    {items : List α} (hDistinct : d.schemes.Nodup) :
    Gives (items.foldlM step d) e ↔
      ∃ more, List.Forall₂ Stands items more ∧ e = ⟨d.bindings ++ more⟩ ∧ e.schemes.Nodup := by
  induction items generalizing d e with
  | nil =>
    rw [List.foldlM_nil, hPure]
    constructor
    · rintro rfl
      exact ⟨[], .nil, by rw [List.append_nil], hDistinct⟩
    · rintro ⟨more, hAll, rfl, -⟩
      cases hAll
      rw [List.append_nil]
  | cons item items ih =>
    -- The schemes stay distinct with one more exactly if it is free.
    have hNext : ∀ b : Scheme × Handler,
        (⟨d.bindings ++ [b]⟩ : Dispatcher).schemes.Nodup ↔ b.1 ∉ d.schemes := by
      intro b
      rw [schemes_append, List.nodup_append_comm]
      exact List.nodup_cons.trans (and_iff_left hDistinct)
    rw [List.foldlM_cons, hBind]
    constructor
    · rintro ⟨_, hOne, hRest⟩
      obtain ⟨b, hStands, hFree, rfl⟩ := (hStep _ _ _).mp hOne
      obtain ⟨more, hAll, rfl, hNodup⟩ := (ih ((hNext b).mpr hFree)).mp hRest
      exact ⟨b :: more, .cons hStands hAll, by simp, hNodup⟩
    · rintro ⟨_, hAll, rfl, hNodup⟩
      obtain _ | @⟨_, b, _, more, hStands, hAll⟩ := hAll
      have hParts : d.bindings ++ b :: more = d.bindings ++ [b] ++ more := by simp
      rw [hParts] at hNodup ⊢
      have hFront : (⟨d.bindings ++ [b]⟩ : Dispatcher).schemes.Nodup :=
        (List.nodup_append.mp (schemes_append _ more ▸ hNodup)).1
      refine ⟨_, (hStep _ _ _).mpr ⟨b, hStands, (hNext b).mp hFront, rfl⟩, ?_⟩
      exact (ih hFront).mpr ⟨more, hAll, rfl, hNodup⟩

theorem foldlM_bind_eq_ok_iff {α : Type} {step : Dispatcher → α → Result Dispatcher}
    {Stands : α → Scheme × Handler → Prop}
    (hStep : ∀ d item e, step d item = .ok e ↔
      ∃ b, Stands item b ∧ b.1 ∉ d.schemes ∧ e = ⟨d.bindings ++ [b]⟩)
    {items : List α} (hDistinct : d.schemes.Nodup) :
    items.foldlM step d = .ok e ↔
      ∃ more, List.Forall₂ Stands items more ∧ e = ⟨d.bindings ++ more⟩ ∧ e.schemes.Nodup := by
  let Gives (x : Result Dispatcher) (e : Dispatcher) : Prop := x = .ok e
  have hPure : ∀ d e, Gives (pure d) e ↔ d = e := by
    intro d e
    constructor
    · rintro ⟨⟩
      rfl
    · rintro rfl
      rfl
  exact foldlM_bind_iff Gives hPure (fun _ _ _ => SignOn.bind_eq_ok_iff) hStep hDistinct

/-- The dispatcher to which handlers are bound one after the other. -/
def bindAll (bindings : List (String × Handler)) : Result Dispatcher :=
  bindings.foldlM (fun d (name, handler) => d.bind name handler) {}

theorem bindAll_eq_ok_iff {bindings : List (String × Handler)} :
    bindAll bindings = .ok d ↔
      List.Forall₂ (fun given b => b.1.IsNamed given.1 ∧ b.2 = given.2) bindings d.bindings ∧
        d.schemes.Nodup := by
  have hStep : ∀ (d : Dispatcher) (given : String × Handler) (e : Dispatcher),
      d.bind given.1 given.2 = .ok e ↔ ∃ b : Scheme × Handler,
        (b.1.IsNamed given.1 ∧ b.2 = given.2) ∧ b.1 ∉ d.schemes ∧ e = ⟨d.bindings ++ [b]⟩ := by
    rintro d ⟨name, handler⟩ e
    rw [bind_eq_ok_iff]
    constructor
    · rintro ⟨s, hNamed, hFree, rfl⟩
      exact ⟨(s, handler), ⟨hNamed, rfl⟩, hFree, rfl⟩
    · rintro ⟨⟨s, _⟩, ⟨hNamed, rfl⟩, hFree, rfl⟩
      exact ⟨s, hNamed, hFree, rfl⟩
  have hNone : ({} : Dispatcher).schemes.Nodup := List.nodup_nil
  refine (foldlM_bind_eq_ok_iff hStep hNone).trans ?_
  constructor
  · rintro ⟨more, hAll, rfl, hNodup⟩
    exact ⟨hAll, hNodup⟩
  · rintro ⟨hAll, hNodup⟩
    exact ⟨d.bindings, hAll, rfl, hNodup⟩

/-- The same handlers are bound to the same schemes, in whatever order this is done. -/
theorem exists_bindAll_of_perm {bindings others : List (String × Handler)}
    (hBuilt : bindAll bindings = .ok d) (hPerm : others.Perm bindings) :
    ∃ e, bindAll others = .ok e ∧ e.bindings.Perm d.bindings := by
  obtain ⟨hAll, hNodup⟩ := bindAll_eq_ok_iff.mp hBuilt
  obtain ⟨found, hFound, hOrder⟩ := List.perm_comp_forall₂ hPerm hAll
  exact ⟨⟨found⟩, bindAll_eq_ok_iff.mpr ⟨hFound, (hOrder.map Prod.fst).nodup_iff.mpr hNodup⟩,
    hOrder⟩

/-! ## The way of a request -/

/-- A request goes to a handler: it is bound to the scheme of the credentials, which go on with
`rest`, and no other handler is bound to a scheme that they match. -/
structure Routes (d : Dispatcher) (request : Request) (s : Scheme) (handler : Handler)
    (rest : String) : Prop where
  bound : (s, handler) ∈ d.bindings
  read : (credentials? request).bind s.behind? = some rest
  only : ∀ text, credentials? request = some text → ∀ b ∈ d.bindings, b.1.matches? text = true →
    b = (s, handler)

/-- The credentials of a request are not for a scheme that has a handler, or there are none that can
be read. -/
def Unrouted (d : Dispatcher) (request : Request) : Prop :=
  ∀ text, credentials? request = some text → ∀ s ∈ d.schemes, ¬ s.matches? text = true

theorem eq_of_bound {other : Handler} (hDistinct : d.schemes.Nodup)
    (h : (s, handler) ∈ d.bindings) (h' : (s, other) ∈ d.bindings) : other = handler := by
  have hSame := List.inj_on_of_nodup_map hDistinct h' h rfl
  exact congrArg Prod.snd hSame

theorem eq_of_matches? {t : Scheme} {text : String} (h : s.matches? text = true)
    (h' : t.matches? text = true) : s = t := by
  obtain ⟨_, hs⟩ := Scheme.matches?_iff_introduces.mp h
  obtain ⟨_, ht⟩ := Scheme.matches?_iff_introduces.mp h'
  exact hs.unique ht

/-- A request goes to exactly one handler, or to none. -/
theorem routes_or_unrouted (hDistinct : d.schemes.Nodup) (request : Request) :
    (∃ s handler rest, d.Routes request s handler rest) ∨ d.Unrouted request := by
  by_cases h : ∃ text s, credentials? request = some text ∧ s ∈ d.schemes ∧
      s.matches? text = true
  · left
    obtain ⟨text, s, hText, hBound, hMatch⟩ := h
    obtain ⟨handler, hHandler⟩ := mem_schemes_iff.mp hBound
    obtain ⟨rest, hRest⟩ := Scheme.matches?_iff_introduces.mp hMatch
    refine ⟨s, handler, rest, hHandler, ?_, ?_⟩
    · rw [hText, Option.bind_some]
      exact Scheme.behind?_eq_some_iff.mpr hRest
    · intro text' hText' b hOther hMatch'
      rw [hText, Option.some.injEq] at hText'
      subst hText'
      have hScheme : b.1 = s := eq_of_matches? hMatch' hMatch
      exact Prod.ext hScheme (eq_of_bound hDistinct hHandler (hScheme ▸ hOther))
  · right
    intro text hText s hBound hMatch
    exact h ⟨text, s, hText, hBound, hMatch⟩

/-- The handlers of the other schemes play no part for the way of a request. -/
theorem Routes.route? {rest : String} (h : d.Routes request s handler rest)
    (hDistinct : d.schemes.Nodup) (hSchemes : e.schemes.Perm d.schemes)
    (hBound : (s, handler) ∈ e.bindings) : e.route? request = some handler := by
  obtain ⟨text, hText, hRest⟩ := Option.bind_eq_some_iff.mp h.read
  have hMatch : s.matches? text = true :=
    Scheme.matches?_iff_introduces.mpr ⟨rest, Scheme.behind?_eq_some_iff.mp hRest⟩
  rw [Dispatcher.route?, hText, Option.bind_some]
  cases hFind : e.bindings.find? fun (t, _) => t.matches? text with
  | none =>
    have hOther := List.find?_eq_none.mp hFind (s, handler) hBound
    exact absurd hMatch hOther
  | some b =>
    have hFound := List.find?_some hFind
    have hOther := List.mem_of_find?_eq_some hFind
    have hScheme : b.1 = s := eq_of_matches? hFound hMatch
    have hHandler : b.2 = handler :=
      eq_of_bound (hSchemes.nodup_iff.mpr hDistinct) hBound (hScheme ▸ hOther)
    rw [Option.map_some, hHandler]

theorem Unrouted.route? (h : d.Unrouted request) (hSchemes : e.schemes.Perm d.schemes) :
    e.route? request = none := by
  rw [Dispatcher.route?, Option.bind_eq_none_iff]
  intro text hText
  rw [Option.map_eq_none_iff, List.find?_eq_none]
  rintro ⟨s, handler⟩ hBound
  have hMem : s ∈ e.schemes := mem_schemes_iff.mpr ⟨handler, hBound⟩
  exact h text hText s (hSchemes.mem_iff.mp hMem)

theorem authenticate_of_route? (h : d.route? request = some handler) :
    d.authenticate request = handler.authenticate request := by
  rw [authenticate, h]

theorem authenticate_of_unrouted (h : d.route? request = none) :
    d.authenticate request = .done (.ok (.challenge d.offer)) := by
  rw [authenticate, h]

end Dispatcher

/-! ## Credentials of the handler's own scheme -/

/-- With credentials of its scheme a handler that negotiates does not go back to its challenge: it
fails because of the token, or it asks the security provider. -/
theorem Negotiator.authenticate_of_behind? {E : PatternEngine} {n : Negotiator E}
    {request : Request} {rest : String}
    (hPath : request.target.path ∉ n.exempt)
    (hRest : (credentials? request).bind Scheme.negotiate.behind? = some rest) :
    (∃ fault, n.authenticate request = .done (negotiationFails fault)) ∨
      ∃ credential token, n.authenticate request = .accept credential token n.outcome := by
  have hContains : ¬ n.exempt.contains request.target.path = true := by simpa using hPath
  rw [authenticate, if_neg hContains, hRest]
  dsimp only
  cases n.readTicket rest with
  | error fault => exact .inl ⟨fault, rfl⟩
  | ok ticket => exact .inr ⟨ticket.1, ticket.2, rfl⟩

/-- With credentials of its scheme a handler of passwords goes on with the user and the password in
them. It goes back to its challenge only if they hold none. -/
theorem DirectoryHandler.authenticate_of_behind? {h : DirectoryHandler} {request : Request}
    {rest : String} (hRest : (credentials? request).bind Scheme.basic.behind? = some rest) :
    h.authenticate request =
      match userAndPassword? rest with
      | some (user, password) => h.authenticateUser user password
      | none => .done (.ok (.challenge (.unauthorized .basic))) := by
  obtain ⟨text, hText, hBehind⟩ := Option.bind_eq_some_iff.mp hRest
  cases hNamed : userAndPassword? rest <;>
    simp only [authenticate, hText, Option.bind_some, hBehind, hNamed]

namespace Dispatcher

variable {d : Dispatcher}

/-- **Where a request goes.** Handlers are bound in the given order to the schemes that are named,
and one more is refused exactly if its scheme is none or has a handler. A request goes to the one
handler whose scheme its credentials match, which finds credentials of its scheme there; what comes
out is what this handler finds out, and it is the same in every dispatcher that has other handlers
for the other schemes. If there are no credentials that can be read, or none of the schemes matches,
no handler is asked, and the client is told all schemes in the order of binding. Handlers that are
bound in another order get the same requests. -/
theorem dispatch_exact {bindings : List (String × Handler)} (hBuilt : bindAll bindings = .ok d) :
    List.Forall₂ (fun given b => b.1.IsNamed given.1 ∧ b.2 = given.2) bindings d.bindings ∧
    (∀ name handler, (∃ fault, d.bind name handler = .error fault) ↔
      (∀ s : Scheme, ¬ s.IsNamed name) ∨ ∃ s ∈ d.schemes, s.IsNamed name) ∧
    (∀ request : Request,
      (∃ s handler rest, d.Routes request s handler rest ∧
        (∀ e : Dispatcher, e.schemes.Perm d.schemes → (s, handler) ∈ e.bindings →
          e.authenticate request = handler.authenticate request) ∧
        (∀ (E : PatternEngine) (n : Negotiator E), s = .negotiate → handler = n.handler →
          request.target.path ∉ n.exempt →
          (∃ fault, handler.authenticate request = .done (negotiationFails fault)) ∨
            ∃ credential token,
              handler.authenticate request = .accept credential token n.outcome) ∧
        ∀ h : DirectoryHandler, s = .basic → handler = h.handler →
          handler.authenticate request =
            match DirectoryHandler.userAndPassword? rest with
            | some (user, password) => h.authenticateUser user password
            | none => .done (.ok (.challenge (.unauthorized .basic)))) ∨
      d.Unrouted request ∧ ∀ e : Dispatcher, e.schemes.Perm d.schemes →
        e.authenticate request = .done (.ok (.challenge {
          status := 401
          headers := .ofTexts (e.schemes.map fun s => ("www-authenticate", s.name)) }))) ∧
    ∀ others, others.Perm bindings →
      ∃ e, bindAll others = .ok e ∧ ∀ request, e.route? request = d.route? request := by
  obtain ⟨hAll, hDistinct⟩ := bindAll_eq_ok_iff.mp hBuilt
  refine ⟨hAll, fun name handler => bind_eq_error_iff, ?_, ?_⟩
  · intro request
    obtain ⟨s, handler, rest, hRoutes⟩ | hUnrouted := routes_or_unrouted hDistinct request
    · refine .inl ⟨s, handler, rest, hRoutes, ?_, ?_, ?_⟩
      · intro e hSchemes hBound
        exact authenticate_of_route? (hRoutes.route? hDistinct hSchemes hBound)
      · rintro E n rfl rfl hPath
        exact Negotiator.authenticate_of_behind? hPath hRoutes.read
      · rintro h rfl rfl
        exact DirectoryHandler.authenticate_of_behind? hRoutes.read
    · refine .inr ⟨hUnrouted, fun e hSchemes => ?_⟩
      exact authenticate_of_unrouted (hUnrouted.route? hSchemes)
  · intro others hPerm
    obtain ⟨e, hOthers, hOrder⟩ := exists_bindAll_of_perm hBuilt hPerm
    refine ⟨e, hOthers, fun request => ?_⟩
    have hSchemes : e.schemes.Perm d.schemes := hOrder.map Prod.fst
    obtain ⟨s, handler, rest, hRoutes⟩ | hUnrouted := routes_or_unrouted hDistinct request
    · rw [hRoutes.route? hDistinct hSchemes (hOrder.mem_iff.mpr hRoutes.bound),
        hRoutes.route? hDistinct (.refl _) hRoutes.bound]
    · rw [hUnrouted.route? hSchemes, hUnrouted.route? (.refl _)]

/-- A handler of passwords and one that negotiates, bound under odd spellings in either order. -/
theorem dispatch_exact_swapped :
    let office : DirectoryHandler := { url := "ldap://localhost", naming := .domain "example.com" }
    let web : Negotiator .usual := { credentials := [] }
    let given := [(" basic", office.handler), ("NEGOTIATE\t", web.handler)]
    let d : Dispatcher := ⟨[(.basic, office.handler), (.negotiate, web.handler)]⟩
    let request : Request := {
      target := { path := "/" }
      headers := .ofTexts [("authorization", "  nEgotiate YII=")] }
    bindAll given = .ok d ∧
    (∃ fault, d.bind "BASIC " web.handler = .error fault) ∧
    d.authenticate request = web.authenticate request ∧
    ∃ e, bindAll given.reverse = .ok e ∧ e.route? request = d.route? request := by
  intro office web given d request
  have hBuilt : bindAll given = .ok d := by
    refine bindAll_eq_ok_iff.mpr ⟨.cons ⟨by decide, rfl⟩ (.cons ⟨by decide, rfl⟩ .nil), ?_⟩
    decide
  obtain ⟨-, hRefused, hWay, hOrder⟩ := dispatch_exact hBuilt
  have hText : credentials? request = some "  nEgotiate YII=" := by decide +kernel
  have hMatch : Scheme.negotiate.matches? "  nEgotiate YII=" = true := by decide +kernel
  have hBound : (Scheme.negotiate, web.handler) ∈ d.bindings := by simp [d]
  refine ⟨hBuilt, ?_, ?_, ?_⟩
  · exact (hRefused _ _).mpr (.inr ⟨.basic, by decide, by decide⟩)
  · obtain ⟨s, handler, rest, hRoutes, hSame, -, -⟩ | ⟨hUnrouted, -⟩ := hWay request
    · cases hRoutes.only _ hText _ hBound hMatch
      exact hSame d (.refl _) hBound
    · exact absurd hMatch (hUnrouted _ hText _ (mem_schemes_iff.mpr ⟨_, hBound⟩))
  · obtain ⟨e, hOthers, hRoute⟩ := hOrder _ (List.reverse_perm given)
    exact ⟨e, hOthers, hRoute request⟩

end Dispatcher

end SignOn
