import SignOn.Proofs.Client.Talk
import SignOn.Proofs.Http.Url
import SignOn.Proofs.Session.Token

/-!
# Claims that arrive

A client that claims a name writes it into the query of a URL, in escapes, and the URL becomes the
target of a request. A handler that takes clients at their word reads the query of that target. So
the name that the handler finds is the one that was claimed, whatever characters it has and whatever
else stands in the query, unless the query names a user already (`Authenticator.claim_accepted`).
-/

namespace SignOn

open SignOn.Http (Request Target Url)

/-- The first pair for the user counts, and a pair at the end is the first one if no other is for
the user. -/
theorem PseudoHandler.userName?_eq_some {request : Request} {query name : String}
    {earlier : List (String × String)} (hQuery : request.target.query = some query)
    (hPairs : Http.Form.pairs query = earlier ++ [(userField, name)])
    (hFree : ∀ p ∈ earlier, p.1 ≠ userField) : userName? request = some name := by
  rw [userName?, hQuery, Option.bind_some, hPairs, List.lookup_eq_some_iff]
  refine ⟨earlier, [], rfl, fun p hp => ?_⟩
  simpa using (hFree p hp).symm

theorem PseudoHandler.authenticate_of_userName {h : PseudoHandler} {request : Request}
    {name : String} (hName : userName? request = some name) :
    h.handler.authenticate request = .done ((Token.make name name h.kind).map .ofToken) := by
  have hOutcome : h.outcome request = (Token.make name name h.kind).map .ofToken := by
    rw [outcome, hName]
  exact congrArg Attempt.done hOutcome

namespace Authenticator

variable {s : Surroundings} {c : Conversation} {url : Url} {name : String}

theorem run_claim_of_none
    (hTarget : Target.parse? (url.withPair PseudoHandler.userField name).text = none) :
    (claim s url (some name)).run c = (.error ⟨.request .badTarget, none⟩, c) := by
  exact Talk.run_bind_error (Talk.run_probe_of_none hTarget none)

/-- A claim is one request, whether there is an answer or not. -/
theorem sent_claim_of_some {target : Target}
    (hTarget : Target.parse? (url.withPair PseudoHandler.userField name).text = some target) :
    ((claim s url (some name)).run c).2.sent =
      c.sent ++ [Talk.withCookie { method := "OPTIONS", target } c.cookie] := by
  unfold claim
  dsimp only
  rw [Talk.run_bind, Talk.run_probe_of_some hTarget, Talk.run_send]
  dsimp only [Talk.withCredentials]
  cases s.transport (c.sent ++ [Talk.withCookie { method := "OPTIONS", target } c.cookie]) with
  | error reason => rfl
  | ok response =>
    dsimp only [Except.mapError]
    rw [Talk.run_conclude]
    split <;> rfl

/-- **Who claims a name is taken to have it.** A name that can be the field of a token is claimed
for a URL of the web whose query does not name a user yet. If the URL with the claim can be the
target of a request, one request is sent, and every handler that takes clients at their word finds
the name in it: what comes out is the token for that name, of the kind of the handler. Neither the
characters of the name nor the rest of the query matter. -/
theorem claim_accepted {text : String} (hUrl : Url.parse text = .ok url)
    (hWeb : Client.isWeb url = true) (hNotEmpty : name ≠ "") (hAmpersand : '&' ∉ name.toList)
    (hFree : ∀ p ∈ Http.Form.pairs (url.query.getD ""), p.1 ≠ "user.name") (s : Surroundings)
    (c : Conversation) :
    Target.parse? (url.withPair "user.name" name).text = none ∧
      ((authenticate s url (.pseudo (some name))).run c).2 = c ∨
    ∃ request, ((authenticate s url (.pseudo (some name))).run c).2.sent = c.sent ++ [request] ∧
      ∀ h : PseudoHandler,
        h.handler.authenticate request =
          .done ((Token.make name name h.kind).map .ofToken) ∧
        (Token.isField h.kind = true → h.handler.authenticate request =
          .done (.ok (.authenticated { user := name, principal := name, kind := h.kind } {}))) := by
  have hOrdered : url.Ordered := by
    refine Url.ordered_of_parse hUrl ?_
    simpa [Client.isWeb] using hWeb
  obtain ⟨query, hQuery, hPairs⟩ := Url.exists_query_withPair url PseudoHandler.userField name
  rw [authenticate]
  cases hTarget : Target.parse? (url.withPair PseudoHandler.userField name).text with
  | none =>
    left
    exact ⟨hTarget, congrArg Prod.snd (run_claim_of_none hTarget)⟩
  | some target =>
    right
    refine ⟨_, sent_claim_of_some hTarget, fun h => ?_⟩
    -- The session cookie, if there is one, does not change what is asked for.
    have hSent := congrArg Target.query
      (Talk.target_withCookie { method := "OPTIONS", target } c.cookie)
    have hFound := (hOrdered.withPair PseudoHandler.userField name).query_of_target hQuery hTarget
    have hName := PseudoHandler.userName?_eq_some (hSent.trans hFound) hPairs hFree
    have hOutcome := PseudoHandler.authenticate_of_userName (h := h) hName
    refine ⟨hOutcome, fun hKind => ?_⟩
    have hField : Token.isField name = true := Token.isField_iff.mpr ⟨hNotEmpty, hAmpersand⟩
    have hMade : Token.make name name h.kind =
        .ok { user := name, principal := name, kind := h.kind } :=
      Token.make_eq_ok_iff.mpr ⟨rfl, hField, hField, hKind⟩
    rw [hOutcome, hMade]
    rfl

/-- A name with a blank, a plus sign, an equals sign and a letter beyond ASCII, behind a query that
ends with an ampersand and has an empty part and a part without an equals sign. -/
theorem claim_accepted_odd :
    let text := "http://ann@localhost:8080/data?a&&op=%4c&#top"
    let url : Url := {
      scheme := "http", user := "ann", host := some (.name "localhost"), port := some 8080
      path := .segments ["data"], query := some "a&&op=%4c&", fragment := some "top" }
    let name := "a b+=ä"
    let s : Surroundings := { transport := fun _ => .error "down", now := 0 }
    Url.parse text = .ok url ∧ Client.isWeb url = true ∧ name ≠ "" ∧ '&' ∉ name.toList ∧
    (∀ p ∈ Http.Form.pairs (url.query.getD ""), p.1 ≠ "user.name") ∧
    ∃ request, ((authenticate s url (.pseudo (some name))).run {}).2.sent = [request] ∧
      (PseudoHandler.handler {}).authenticate request =
        .done (.ok (.authenticated { user := name, principal := name, kind := "simple" } {})) := by
  intro text url name s
  have hUrl : Url.parse text = .ok url := by decide +kernel
  have hWeb : Client.isWeb url = true := by decide +kernel
  have hFree : ∀ p ∈ Http.Form.pairs (url.query.getD ""), p.1 ≠ "user.name" := by decide +kernel
  have hTarget : Target.parse? (url.withPair "user.name" name).text ≠ none := by decide +kernel
  have hNotEmpty : name ≠ "" := by decide
  have hAmpersand : '&' ∉ name.toList := by decide
  refine ⟨hUrl, hWeb, hNotEmpty, hAmpersand, hFree, ?_⟩
  obtain ⟨hNone, -⟩ | ⟨request, hSent, hAccepted⟩ :=
    claim_accepted hUrl hWeb hNotEmpty hAmpersand hFree s {}
  · exact absurd hNone hTarget
  · exact ⟨request, hSent, (hAccepted {}).2 (by decide)⟩

end Authenticator

end SignOn
