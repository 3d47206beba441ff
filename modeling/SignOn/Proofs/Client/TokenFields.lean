import SignOn.Proofs.Client.Exchange
import SignOn.Proofs.Endpoint.Negotiation
import SignOn.Proofs.Http.Plain

/-!
# Tokens in header fields

A client and an endpoint that negotiate send each other tokens in header fields, behind the name of
the scheme and in base64, and each reads what the other has written. No character of base64 is white
space, so nothing of a token is lost when fields are trimmed (`trim_negotiateText`). The endpoint
reads the field for credentials of a request, which is the first one of its name. A client looks at
all challenges of an answer, of which the last offer counts, so other challenges do not hide a token
unless they offer to negotiate themselves (`Offer.Makes`).
-/

namespace SignOn

open SignOn.Http (Headers Request Response Target Url)
open SignOn.Text (Bytes)

/-! ## The text of a field -/

theorem isBlank_of_mem_base64 {token : Bytes} {c : Char}
    (h : c ∈ (Text.Base64.encode token).toList) : Text.isBlank c = false := by
  have hAlphabet : ('=' :: Text.Base64.alphabet).all (fun c => !Text.isBlank c) = true := by
    rw [Text.Base64.alphabet_eq]
    rfl
  rw [List.all_eq_true] at hAlphabet
  rw [Text.Base64.encode, String.toList_ofList] at h
  rcases Text.Base64.mem_encodeChars h with hMem | rfl
  · simpa using hAlphabet c (List.mem_cons_of_mem _ hMem)
  · decide

theorem base64_ne_nil {token : Bytes} (h : token ≠ []) :
    (Text.Base64.encode token).toList ≠ [] := by
  rw [Text.Base64.encode, String.toList_ofList]
  exact Text.Base64.encodeChars_ne_nil h

theorem trim_base64 (token : Bytes) :
    Text.trim (Text.Base64.encode token) = Text.Base64.encode token := by
  rw [Text.trim, Text.stripBy_of_forall_not fun c hc => isBlank_of_mem_base64 hc,
    String.ofList_toList]

/-- Nothing is lost when the text of a field is trimmed. -/
theorem trim_negotiateText {token : Bytes} (h : token ≠ []) :
    Text.trim (negotiateText token) = negotiateText token := by
  have hName : ∀ c ∈ Scheme.negotiate.name.toList, Text.isBlank c = false :=
    Scheme.isBlank_of_sameText rfl
  have hWords := Text.stripBy_of_words hName (by decide) (fun c hc => isBlank_of_mem_base64 hc)
    (base64_ne_nil h) " ".toList
  have hText : (negotiateText token).toList =
      Scheme.negotiate.name.toList ++ (" ".toList ++ (Text.Base64.encode token).toList) := by
    simp [negotiateText]
  rw [Text.trim, hText, hWords, ← hText, String.ofList_toList]

theorem isPlain_negotiateText (token : Bytes) : Http.IsPlain (negotiateText token) := by
  rw [negotiateText, Http.isPlain_append, Http.isPlain_append]
  exact ⟨⟨by decide, by decide⟩, Http.isPlain_base64 token⟩

/-! ## From the client to the endpoint -/

/-- The endpoint takes the name of the scheme off and finds the token in base64. -/
theorem introduces_negotiateText (token : Bytes) :
    Scheme.negotiate.Introduces (negotiateText token) (Text.Base64.encode token) := by
  have hBlank : Text.trim (" " ++ Text.Base64.encode token) = Text.Base64.encode token := by
    rw [Text.trim_append_of_isBlank (by decide), trim_base64]
  refine ⟨"", Scheme.negotiate.name, " " ++ Text.Base64.encode token, ?_, by simp, ?_,
    hBlank.symm⟩
  · rw [negotiateText, ← String.toList_inj]
    simp
  · rw [Text.sameText_iff]

namespace Talk

variable {s : Surroundings} {c : Conversation} {url : Url} {target : Target}

theorem credentials?_probe (target : Target) (cookie : SessionCookie) {text : String}
    (hText : Http.IsPlain text) :
    credentials? (withCredentials (withCookie { method := "OPTIONS", target } cookie)
      (some (Text.Utf8.encode text))) = some text := by
  have hFields : ∀ headers : Headers, headers.getAll Http.authorizationField = [] →
      (headers.append Http.authorizationField (Text.Utf8.encode text)).get?
        Http.authorizationField = some (Text.Utf8.encode text) := by
    intro headers hNone
    rw [Headers.get?, Headers.getAll_append, hNone]
    rfl
  -- A session cookie is in another field, so the credentials are the first of theirs.
  have hOther : (withCookie { method := "OPTIONS", target } cookie).headers.getAll
      Http.authorizationField = [] := by
    unfold withCookie
    cases cookie.field? with
    | none => rfl
    | some field => simp [Headers.getAll, Headers.append, Http.cookieField, Http.authorizationField]
  have hGet := hFields _ hOther
  rw [credentials?]
  exact (congrArg (fun value => Option.bind value Headers.readable?) hGet).trans hText.readable?

end Talk

namespace Authenticator

variable {s : Surroundings} {c : Conversation} {url : Url} {token : Bytes} {last : Response}

theorem run_sendToken_of_none (hToken : token ≠ []) (hTarget : Target.parse? url.text = none) :
    ((sendToken s url token last).run c).2 = c := by
  rw [sendToken, if_neg (mt List.isEmpty_iff.mp hToken), Talk.run_probe_of_none hTarget]

theorem sent_sendToken_of_some (hToken : token ≠ []) {target : Target}
    (hTarget : Target.parse? url.text = some target) :
    ((sendToken s url token last).run c).2.sent =
      c.sent ++ [Talk.withCredentials (Talk.withCookie { method := "OPTIONS", target } c.cookie)
        (some (Text.Utf8.encode (negotiateText token)))] := by
  rw [sendToken, if_neg (mt List.isEmpty_iff.mp hToken), Talk.run_probe_of_some hTarget,
    Talk.run_send]

end Authenticator

/-! ## From the endpoint to the client -/

namespace Http.Headers

theorem texts_extend (h more : Headers) (name : String) :
    (h.extend more).texts name = h.texts name ++ more.texts name := by
  simp [texts, getAll, extend]

theorem texts_ofText {name text : String} (hText : IsPlain text) :
    (ofTexts [(name, text)]).texts name = [text] := by
  simp [texts, getAll, ofTexts, hText.readable?]

end Http.Headers

namespace Offer

/-- The challenge is the name of the scheme alone, in any letter case and perhaps with white space
around it. -/
def IsBare (challenge : String) : Prop :=
  Text.sameText (Text.trim challenge) "Negotiate" = true

/-- The challenge is no offer to negotiate: it is not bare, and it carries no token. -/
def IsOther (challenge : String) : Prop :=
  ¬ IsBare challenge ∧ ∀ token, ¬ Carries challenge token

/-- Fields make an offer to a client in every answer where no field behind them makes another one.
What stands in front of them does not matter. -/
def Makes (headers : Headers) (offer : Offer) : Prop :=
  ∀ front back : Headers, (∀ challenge ∈ back.texts "www-authenticate", IsOther challenge) →
    inHeaders? ((front.extend headers).extend back) = some offer

theorem read?_eq_bare_iff {challenge : String} :
    read? challenge = some .bare ↔ IsBare challenge := by
  unfold read? IsBare
  dsimp only
  split
  · rename_i hBare
    exact iff_of_true rfl hBare
  · rename_i hOther
    refine iff_of_false ?_ hOther
    split
    · cases Text.Base64.decode? _ <;> simp
    · simp

theorem read?_eq_none_iff {challenge : String} : read? challenge = none ↔ IsOther challenge := by
  unfold IsOther
  simp only [← read?_eq_bare_iff, ← read?_eq_token_iff]
  cases read? challenge with
  | none => simp
  | some offer => cases offer <;> simp

theorem makes_of_read? {text : String} {offer : Offer} (hText : Http.IsPlain text)
    (hRead : read? text = some offer) : Makes (.ofTexts [(Http.challengeField, text)]) offer := by
  intro front back hBack
  -- The last offer counts, and behind the field there is none.
  have hNone : (back.texts Http.challengeField).filterMap read? = [] := by
    rw [List.filterMap_eq_nil_iff]
    intro challenge hChallenge
    exact read?_eq_none_iff.mpr (hBack challenge hChallenge)
  rw [inHeaders?, Headers.texts_extend, Headers.texts_extend, Headers.texts_ofText hText,
    List.filterMap_append, List.filterMap_append, hNone, List.append_nil,
    List.filterMap_cons_some hRead, List.filterMap_nil, List.getLast?_concat]

theorem makes_token {token : Bytes} (hToken : token ≠ []) :
    Makes (.ofTexts [(Http.challengeField, negotiateText token)]) (.token token) := by
  refine makes_of_read? (isPlain_negotiateText token) (read?_eq_token_iff.mpr ?_)
  exact ⟨"Negotiate", Text.Base64.encode token, trim_negotiateText hToken,
    by rw [Text.sameText_iff], trim_base64 token⟩

end Offer

namespace Negotiator

variable {token : Bytes}

theorem goOn_of_ne (hToken : token ≠ []) :
    goOn token = ⟨401, .ofTexts [(Http.challengeField, negotiateText token)]⟩ := by
  rw [goOn, if_neg (mt List.isEmpty_iff.mp hToken)]

theorem lastField_of_ne (hToken : token ≠ []) :
    lastField (some token) = .ofTexts [(Http.challengeField, negotiateText token)] := by
  rw [lastField]
  exact if_neg (mt List.isEmpty_iff.mp hToken)

/-- **Both sides read each other's tokens.** The request with which a client sends a token has
credentials for negotiation, from which the endpoint gets the token back. If the security provider
of an endpoint gives a token, the fields that the endpoint answers with make the client read this
token, whether the exchange goes on or the client is known, and whatever other challenges there are
as long as none behind it offers to negotiate. An exchange that goes on without a token is a bare
offer. -/
theorem tokens_understood (hToken : token ≠ []) :
    (∀ (s : Surroundings) (url : Url) (last : Response) (c : Conversation),
      Target.parse? url.text = none ∧
        ((Authenticator.sendToken s url token last).run c).2 = c ∨
      ∃ request encoded,
        ((Authenticator.sendToken s url token last).run c).2.sent = c.sent ++ [request] ∧
        (credentials? request).bind Scheme.negotiate.behind? = some encoded ∧
        Text.Base64.decode? encoded = some token) ∧
    (∀ (E : PatternEngine) (n : Negotiator E),
      (∃ challenge, n.outcome (.ok (.more token)) = .ok (.challenge challenge) ∧
        Offer.Makes challenge.headers (.token token)) ∧
      (∀ client named headers, n.outcome (.ok (.established client (some token))) =
          .ok (.authenticated named headers) → Offer.Makes headers (.token token)) ∧
      ∃ challenge, n.outcome (.ok (.more [])) = .ok (.challenge challenge) ∧
        Offer.Makes challenge.headers .bare) := by
  refine ⟨fun s url last c => ?_, fun E n => ⟨?_, ?_, ?_⟩⟩
  · cases hTarget : Target.parse? url.text with
    | none => exact .inl ⟨rfl, Authenticator.run_sendToken_of_none hToken hTarget⟩
    | some target =>
      right
      refine ⟨_, Text.Base64.encode token,
        Authenticator.sent_sendToken_of_some hToken hTarget, ?_, ?_⟩
      · rw [Talk.credentials?_probe target c.cookie (isPlain_negotiateText token),
          Option.bind_some]
        exact Scheme.behind?_eq_some_iff.mpr (introduces_negotiateText token)
      · exact Text.Base64.decode?_eq_some_iff.mpr rfl
  · refine ⟨_, rfl, ?_⟩
    rw [goOn_of_ne hToken]
    exact Offer.makes_token hToken
  · intro client named headers hOutcome
    obtain ⟨_, -, hGiven⟩ := bind_eq_ok_iff.mp hOutcome
    cases hGiven
    rw [lastField_of_ne hToken]
    exact Offer.makes_token hToken
  · refine ⟨_, rfl, Offer.makes_of_read? (by decide) ?_⟩
    decide

/-- A token whose text ends with padding: it is sent to an endpoint; and it comes back, from a
negotiation that goes on and from one that ends, between challenges of another scheme and a damaged
one of this scheme. -/
theorem tokens_understood_among_others :
    let token : Bytes := [0x60, 0x02, 0x06, 0x00]
    let url : Url :=
      { scheme := "http", host := some (.name "localhost"), path := .segments ["data"] }
    let s : Surroundings := { transport := fun _ => .error "down", now := 0 }
    let n : Negotiator .usual := { credentials := [], rules := { defaultRealm := some "R" } }
    let others := Headers.ofTexts [("www-authenticate", "Basic realm=\"office\""),
      ("server", "Negotiate"), ("www-authenticate", " negotiate YII")]
    token ≠ [] ∧
    (∃ request encoded,
      ((Authenticator.sendToken s url token { status := 401 }).run {}).2.sent = [request] ∧
      (credentials? request).bind Scheme.negotiate.behind? = some encoded ∧
      Text.Base64.decode? encoded = some token) ∧
    (∃ challenge, n.outcome (.ok (.more token)) = .ok (.challenge challenge) ∧
      Offer.inHeaders? ((others.extend challenge.headers).extend others) = some (.token token)) ∧
    ∃ named headers, n.outcome (.ok (.established "ann@R" (some token))) =
        .ok (.authenticated named headers) ∧
      Offer.inHeaders? ((others.extend headers).extend others) = some (.token token) := by
  intro token url s n others
  have hToken : token ≠ [] := by decide
  have hTarget : Target.parse? url.text ≠ none := by decide +kernel
  have hOthers : ∀ challenge ∈ others.texts "www-authenticate", Offer.IsOther challenge := by
    have hNone : ∀ challenge ∈ others.texts "www-authenticate", Offer.read? challenge = none := by
      decide +kernel
    exact fun challenge hMem => Offer.read?_eq_none_iff.mp (hNone challenge hMem)
  obtain ⟨hSends, hAnswers⟩ := tokens_understood hToken
  obtain ⟨⟨challenge, hMore, hMakes⟩, hEstablished, -⟩ := hAnswers _ n
  obtain ⟨named, hNamed⟩ : ∃ named, n.tokenOf "ann@R" = .ok named := ⟨_, rfl⟩
  have hKnown : n.outcome (.ok (.established "ann@R" (some token))) =
      .ok (.authenticated named (lastField (some token))) := by
    rw [outcome, hNamed]
    rfl
  refine ⟨hToken, ?_, ⟨challenge, hMore, hMakes others others hOthers⟩, named, _, hKnown, ?_⟩
  · obtain ⟨hNone, -⟩ | hSent := hSends s url { status := 401 } {}
    · exact absurd hNone hTarget
    · exact hSent
  · exact hEstablished _ _ _ hKnown others others hOthers

end Negotiator

end SignOn
