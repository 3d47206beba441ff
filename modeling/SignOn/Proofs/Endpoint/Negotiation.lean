import Mathlib.Tactic.Common
import SignOn.Endpoint.Negotiator
import SignOn.Proofs.Endpoint.Scheme
import SignOn.Proofs.Result
import SignOn.Proofs.Session.Token
import SignOn.Proofs.Text.Base64

/-!
# Who passes a negotiation

A handler that negotiates knows a client on the word of its security provider alone. The provider is
asked about a request only if the path is not exempt, the request carries a token, the token is for
a web endpoint, and a credential serves the principal of that endpoint; then it is asked once, with
the first such credential and the token as it came (`Negotiator.Asks`). A client is authenticated
exactly if the provider answers that it is known, or if the path is exempt, which makes it nobody
(`Negotiator.no_bypass`).
-/

namespace SignOn

open SignOn.Http (Headers Request)
open SignOn.Text (Bytes)

/-! ## Asking -/

namespace Attempt

variable {α : Type} {m : Type → Type} [Monad m]

/-- An attempt carried out where asking an authority may have any effect. -/
def perform (bind : BindRequest → m (Except String Unit))
    (accept : Credential → Bytes → m (Except String Acceptance)) :
    Attempt α → m (Result α)
  | .done result => pure result
  | .bind request next => do
    let answer ← bind request
    return next answer
  | .accept credential token next => do
    let answer ← accept credential token
    return next answer

/-- Where asking has no effect but an answer, nothing else is carried out. -/
theorem run_eq_perform (authorities : Authorities) (attempt : Attempt α) :
    attempt.run authorities = Id.run (attempt.perform
      (fun request => pure (authorities.bind request))
      fun credential token => pure (authorities.accept credential token)) := by
  cases attempt <;> rfl

end Attempt

/-! ## Credentials -/

/-- The credential is for this principal, or it names no realm and is for this service in every
realm. -/
def Credential.Serves (c : Credential) (principal : String) : Prop :=
  principal = c.principal ∨
    '@' ∉ c.principal.toList ∧ ∃ realm, principal = c.principal ++ "@" ++ realm

theorem Credential.accepts_iff {c : Credential} {principal : String} :
    c.accepts principal = true ↔ c.Serves principal := by
  unfold accepts Serves
  by_cases hRealm : '@' ∈ c.principal.toList
  · have hSome : c.principal.toList.contains '@' = true := by simpa using hRealm
    rw [hSome, if_pos rfl, beq_iff_eq]
    constructor
    · intro h
      exact .inl h.symm
    · rintro (h | ⟨hNone, -⟩)
      · exact h.symm
      · exact absurd hRealm hNone
  · have hNone : c.principal.toList.contains '@' = false := by simpa using hRealm
    rw [hNone, if_neg Bool.false_ne_true, beq_iff_eq]
    constructor
    · intro hBefore
      by_cases hAt : '@' ∈ principal.toList
      · obtain ⟨front, realm, hText, hFront⟩ := List.eq_append_cons_of_mem hAt
        rw [hText, Text.before_append hFront] at hBefore
        refine .inr ⟨hRealm, String.ofList realm, ?_⟩
        rw [← String.toList_inj, hText, hBefore]
        simp
      · rw [Text.before_of_not_mem hAt] at hBefore
        exact .inl (String.toList_inj.mp hBefore)
    · rintro (rfl | ⟨-, realm, rfl⟩)
      · exact Text.before_of_not_mem hRealm
      · rw [String.toList_append, String.toList_append]
        exact (congrArg _ (by simp)).trans (Text.before_append hRealm realm.toList)

namespace Negotiator

variable {E : PatternEngine} {n : Negotiator E} {request : Request} {credential : Credential}
  {ticket : Bytes}

/-- The principal is that of a web endpoint, and the credential is the first one that serves it. -/
def Selects (n : Negotiator E) (principal : String) (credential : Credential) : Prop :=
  (∃ rest, principal = "HTTP/" ++ rest) ∧
    ∃ earlier later, n.credentials = earlier ++ credential :: later ∧
      credential.Serves principal ∧ ∀ c ∈ earlier, ¬ c.Serves principal

theorem isEndpoint_iff {principal : String} :
    isEndpoint principal = true ↔ ∃ rest, principal = "HTTP/" ++ rest := by
  rw [isEndpoint, List.isPrefixOf_iff_prefix]
  constructor
  · rintro ⟨rest, hRest⟩
    have hText := congrArg String.ofList hRest
    rw [String.ofList_append, String.ofList_toList, String.ofList_toList] at hText
    exact ⟨String.ofList rest, hText.symm⟩
  · rintro ⟨rest, rfl⟩
    rw [String.toList_append]
    exact List.prefix_append _ _

theorem credentialFor_eq_ok_iff {principal : String} :
    n.credentialFor principal = .ok credential ↔ n.Selects principal credential := by
  have hFind : n.credentials.find? (fun c => c.accepts principal) = some credential ↔
      ∃ earlier later, n.credentials = earlier ++ credential :: later ∧
        credential.Serves principal ∧ ∀ c ∈ earlier, ¬ c.Serves principal := by
    rw [List.find?_eq_some_iff_append]
    simp only [Bool.not_eq_true', ← Credential.accepts_iff, Bool.not_eq_true]
    constructor
    · rintro ⟨hServes, earlier, later, hAll, hEarlier⟩
      exact ⟨earlier, later, hAll, hServes, hEarlier⟩
    · rintro ⟨earlier, later, hAll, hServes, hEarlier⟩
      exact ⟨hServes, earlier, later, hAll, hEarlier⟩
  rw [Selects, ← isEndpoint_iff, ← hFind]
  unfold credentialFor
  cases isEndpoint principal with
  | false => simp
  | true =>
    cases n.credentials.find? (fun c => c.accepts principal) with
    | none => simp
    | some c => simp

end Negotiator

/-! ## Tokens -/

/-- The request carries a token: its credentials are for negotiation and go on with the token in
base64. -/
def Http.Request.Negotiates (request : Request) (ticket : Bytes) : Prop :=
  ∃ credentials, credentials? request = some credentials ∧
    Scheme.negotiate.Introduces credentials (Text.Base64.encode ticket)

namespace Negotiator

variable {E : PatternEngine} {n : Negotiator E} {request : Request} {credential : Credential}
  {ticket : Bytes}

/-- The security provider has to be asked about a request: whether it takes this token for this
credential. -/
structure Asks (n : Negotiator E) (request : Request) (credential : Credential) (ticket : Bytes) :
    Prop where
  notExempt : request.target.path ∉ n.exempt
  carried : request.Negotiates ticket
  selected : ∃ principal, ServiceToken.serverName ticket = .ok principal ∧
    n.Selects principal credential

theorem readTicket_eq_ok_iff {encoded : String} :
    n.readTicket encoded = .ok (credential, ticket) ↔
      encoded = Text.Base64.encode ticket ∧
        ∃ principal, ServiceToken.serverName ticket = .ok principal ∧
          n.Selects principal credential := by
  rw [← Text.Base64.decode?_eq_some_iff]
  unfold readTicket
  cases Text.Base64.decode? encoded with
  | none => simp
  | some token =>
    simp only [bind_eq_ok_iff, credentialFor_eq_ok_iff, Option.some.injEq]
    constructor
    · rintro ⟨principal, hName, c, hSelects, h⟩
      cases h
      exact ⟨rfl, principal, hName, hSelects⟩
    · rintro ⟨rfl, principal, hName, hSelects⟩
      exact ⟨principal, hName, credential, hSelects, rfl⟩

/-- What the request carries behind the name of the scheme, if it is a token. -/
theorem carried_iff :
    request.Negotiates ticket ↔
      (credentials? request).bind Scheme.negotiate.behind? =
        some (Text.Base64.encode ticket) := by
  rw [Http.Request.Negotiates, Option.bind_eq_some_iff]
  simp only [Scheme.behind?_eq_some_iff]

theorem asks_iff :
    n.Asks request credential ticket ↔ request.target.path ∉ n.exempt ∧
      ∃ encoded, (credentials? request).bind Scheme.negotiate.behind? = some encoded ∧
        n.readTicket encoded = .ok (credential, ticket) := by
  simp only [readTicket_eq_ok_iff]
  constructor
  · rintro ⟨hExempt, hCarried, hSelected⟩
    exact ⟨hExempt, _, carried_iff.mp hCarried, rfl, hSelected⟩
  · rintro ⟨hExempt, encoded, hCarried, rfl, hSelected⟩
    exact ⟨hExempt, carried_iff.mpr hCarried, hSelected⟩

/-- There is at most one question to ask. -/
theorem Asks.unique {credential' : Credential} {ticket' : Bytes}
    (h : n.Asks request credential ticket) (h' : n.Asks request credential' ticket') :
    credential = credential' ∧ ticket = ticket' := by
  obtain ⟨-, encoded, hCarried, hRead⟩ := asks_iff.mp h
  obtain ⟨-, encoded', hCarried', hRead'⟩ := asks_iff.mp h'
  rw [hCarried] at hCarried'
  cases hCarried'
  rw [hRead] at hRead'
  cases hRead'
  exact ⟨rfl, rfl⟩

/-- An attempt asks the security provider, or it is decided without it and nobody but the anonymous
user of an exempt path is authenticated. -/
theorem authenticate_cases (n : Negotiator E) (request : Request) :
    (∃ credential ticket, n.Asks request credential ticket ∧
      n.authenticate request = .accept credential ticket n.outcome) ∨
    (∀ credential ticket, ¬ n.Asks request credential ticket) ∧
      ∃ result, n.authenticate request = .done result ∧
        ∀ token headers, result = .ok (.authenticated token headers) ↔
          request.target.path ∈ n.exempt ∧ token = .anonymous ∧ headers = {} := by
  simp only [asks_iff]
  unfold authenticate
  by_cases hExempt : request.target.path ∈ n.exempt
  · right
    have hContains : n.exempt.contains request.target.path = true := by simpa using hExempt
    rw [if_pos hContains]
    refine ⟨fun _ _ h => h.1 hExempt, _, rfl, ?_⟩
    intro token headers
    simp [Outcome.ofToken, hExempt, eq_comm]
  · have hContains : ¬ n.exempt.contains request.target.path = true := by simpa using hExempt
    rw [if_neg hContains]
    match hCarried : (credentials? request).bind Scheme.negotiate.behind? with
    | none => simp [hExempt]
    | some encoded =>
      match hRead : n.readTicket encoded with
      | .error fault => simp [hRead, hExempt, negotiationFails]
      | .ok (credential, ticket) => simp [hRead, hExempt]

theorem Asks.authenticate_eq (h : n.Asks request credential ticket) :
    n.authenticate request = .accept credential ticket n.outcome := by
  obtain ⟨credential', ticket', hAsks, hAttempt⟩ | ⟨hNone, -⟩ := authenticate_cases n request
  · obtain ⟨rfl, rfl⟩ := h.unique hAsks
    exact hAttempt
  · exact absurd h (hNone credential ticket)

/-- The token of a client whom the security provider knows: the principal goes by its short name. -/
def Names (n : Negotiator E) (client : String) (token : Token) : Prop :=
  ∃ name user, PrincipalName.parse client = .ok name ∧ n.rules.shortName name = .ok user ∧
    token = { user, principal := client, kind := "kerberos" } ∧ token.WellFormed

theorem tokenOf_eq_ok_iff {client : String} {token : Token} :
    n.tokenOf client = .ok token ↔ n.Names client token := by
  unfold tokenOf Names
  simp only [bind_eq_ok_iff, Token.make_eq_ok_iff]
  constructor
  · rintro ⟨name, hName, user, hUser, hToken⟩
    exact ⟨name, user, hName, hUser, hToken⟩
  · rintro ⟨name, user, hName, hUser, hToken⟩
    exact ⟨name, hName, user, hUser, hToken⟩

theorem outcome_authenticated_iff {answer : Except String Acceptance} {token : Token}
    {headers : Headers} :
    n.outcome answer = .ok (.authenticated token headers) ↔
      ∃ client output, answer = .ok (.established client output) ∧ n.Names client token ∧
        headers = lastField output := by
  unfold outcome
  match answer with
  | .error reason => simp [negotiationFails]
  | .ok (.more output) => simp
  | .ok (.established client output) =>
    simp only [bind_eq_ok_iff, tokenOf_eq_ok_iff]
    constructor
    · rintro ⟨made, hMade, h⟩
      cases h
      exact ⟨client, output, rfl, hMade, rfl⟩
    · rintro ⟨_, _, h, hMade, rfl⟩
      cases h
      exact ⟨token, hMade, rfl⟩

/-! ## Exempt paths -/

/-- The path is a part of a list between commas or line breaks, without the white space around it.
-/
def IsListed (list path : String) : Prop :=
  path ≠ "" ∧ ∃ part ∈ Text.piecesBy (fun c => c == ',' || c == '\n') list.toList,
    path = Text.trim (String.ofList part)

theorem mem_addExempt {paths paths' : List String} {path : String}
    (h : addExempt paths path = .ok paths') (q : String) :
    q ∈ paths' ↔ q ∈ paths ∨ q ≠ "" ∧ q = path := by
  unfold addExempt at h
  by_cases hEmpty : path = ""
  · rw [if_pos hEmpty] at h
    cases h
    simp [hEmpty]
  · rw [if_neg hEmpty] at h
    split at h
    · cases h
    · cases h
      have hNe : q ≠ "" ∧ q = path ↔ q = path := by
        rw [and_iff_right_iff_imp]
        rintro rfl
        exact hEmpty
      rw [hNe]
      split
      · simp_all
      · simp

theorem mem_foldlM_addExempt {parts paths paths' : List String}
    (h : parts.foldlM addExempt paths = .ok paths') (q : String) :
    q ∈ paths' ↔ q ∈ paths ∨ q ≠ "" ∧ q ∈ parts := by
  induction parts generalizing paths with
  | nil =>
    cases h
    simp
  | cons part parts ih =>
    obtain ⟨paths₁, hOne, hRest⟩ := bind_eq_ok_iff.mp h
    rw [ih hRest, mem_addExempt hOne, List.mem_cons, or_assoc, ← and_or_left]

theorem mem_exempt_of_withExempt {n n' : Negotiator E} {list : String}
    (h : n.withExempt list = .ok n') (path : String) :
    path ∈ n'.exempt ↔ path ∈ n.exempt ∨ IsListed list path := by
  obtain ⟨exempt, hFold, hMade⟩ := bind_eq_ok_iff.mp h
  cases hMade
  rw [mem_foldlM_addExempt hFold, IsListed, List.mem_map]
  simp only [eq_comm]

/-! ## Who is authenticated -/

/-- **Negotiation cannot be passed by.** A request is authenticated exactly if its path is exempt,
and then as anonymous, or if the security provider has to be asked about it and knows the client.
If it has to be asked it is asked once, whether it takes just this token for just this credential,
and its answer decides; otherwise it is not asked. The exempt paths are those that were listed. -/
theorem no_bypass (n : Negotiator E) (request : Request) :
    (∀ authorities token headers,
      (n.authenticate request).run authorities = .ok (.authenticated token headers) ↔
        (request.target.path ∈ n.exempt ∧ token = .anonymous ∧ headers = {}) ∨
        ∃ credential ticket client output, n.Asks request credential ticket ∧
          authorities.accept credential ticket = .ok (.established client output) ∧
          n.Names client token ∧ headers = lastField output) ∧
    (∀ credential ticket, n.Asks request credential ticket →
      ∀ (m : Type → Type) [Monad m] bind (accept : Credential → Bytes → m _),
        (n.authenticate request).perform bind accept = do
          let answer ← accept credential ticket
          return n.outcome answer) ∧
    ((∀ credential ticket, ¬ n.Asks request credential ticket) →
      ∃ result, ∀ (m : Type → Type) [Monad m] bind (accept : Credential → Bytes → m _),
        (n.authenticate request).perform bind accept = pure result) ∧
    ∀ base list, Negotiator.withExempt base list = .ok n →
      (request.target.path ∈ n.exempt ↔
        request.target.path ∈ base.exempt ∨ IsListed list request.target.path) := by
  refine ⟨?_, ?_, ?_, fun base list h => mem_exempt_of_withExempt h _⟩
  · intro authorities token headers
    obtain ⟨credential, ticket, hAsks, hAttempt⟩ | ⟨hNone, result, hAttempt, hResult⟩ :=
      authenticate_cases n request
    · rw [hAttempt, Attempt.run, outcome_authenticated_iff]
      constructor
      · rintro ⟨client, output, hAnswer, hToken, hHeaders⟩
        exact .inr ⟨credential, ticket, client, output, hAsks, hAnswer, hToken, hHeaders⟩
      · rintro (⟨hExempt, -⟩ | ⟨credential', ticket', client, output, hAsks', hAnswer, hToken⟩)
        · exact absurd hExempt hAsks.notExempt
        · obtain ⟨rfl, rfl⟩ := hAsks.unique hAsks'
          exact ⟨client, output, hAnswer, hToken⟩
    · rw [hAttempt, Attempt.run, hResult]
      constructor
      · exact .inl
      · rintro (hExempt | ⟨credential, ticket, _, _, hAsks, -⟩)
        · exact hExempt
        · exact absurd hAsks (hNone credential ticket)
  · intro credential ticket hAsks m _ bind accept
    rw [hAsks.authenticate_eq, Attempt.perform]
  · intro hNone
    obtain ⟨credential, ticket, hAsks, -⟩ | ⟨-, result, hAttempt, -⟩ := authenticate_cases n request
    · exact absurd hAsks (hNone credential ticket)
    · refine ⟨result, ?_⟩
      intro m _ bind accept
      rw [hAttempt, Attempt.perform]

/-- A handler with one credential, for every realm. -/
def anyRealm : Negotiator .usual where
  credentials := [⟨"HTTP/web", "web.keytab"⟩]
  rules := { defaultRealm := some "R" }

/-- A token for the principal HTTP/web@R. -/
def webTicket : Bytes :=
  [0x60, 0x3e, 0x06, 0x09, 0x2a, 0x86, 0x48, 0x86, 0xf7, 0x12, 0x01, 0x02, 0x02, 0x01, 0x00,
    0x6e, 0x2f, 0x30, 0x2d, 0xa0, 0x03, 0x02, 0x01, 0x05, 0xa3, 0x26, 0x61, 0x24, 0x30, 0x22,
    0xa0, 0x03, 0x02, 0x01, 0x05, 0xa1, 0x03, 0x1b, 0x01, 0x52, 0xa2, 0x16, 0x30, 0x14, 0xa0,
    0x03, 0x02, 0x01, 0x03, 0xa1, 0x0d, 0x30, 0x0b, 0x1b, 0x04, 0x48, 0x54, 0x54, 0x50, 0x1b,
    0x03, 0x77, 0x65, 0x62]

/-- A request that carries the token, its scheme written in small letters. -/
def webRequest : Request where
  method := "GET"
  target := { path := "/" }
  headers := .ofTexts
    [("authorization", "negotiate YD4GCSqGSIb3EgECAgEAbi8wLaADAgEFoyZhJDAioAMCAQWhAxsBUqIW" ++
      "MBSgAwIBA6ENMAsbBEhUVFAbA3dlYg==")]

theorem negotiates_webRequest : webRequest.Negotiates webTicket := by
  let encoded := "YD4GCSqGSIb3EgECAgEAbi8wLaADAgEFoyZhJDAioAMCAQWhAxsBUqIW" ++
    "MBSgAwIBA6ENMAsbBEhUVFAbA3dlYg=="
  have hPlain : Http.IsPlain ("negotiate " ++ encoded) := by decide +kernel
  have hField : webRequest.headers.get? Http.authorizationField =
      some (Text.Utf8.encode ("negotiate " ++ encoded)) := rfl
  refine ⟨"negotiate " ++ encoded, ?_, "", "negotiate", " " ++ encoded, by decide +kernel, nofun,
    by decide, by decide +kernel⟩
  rw [credentials?, hField]
  exact hPlain.readable?

/-- The request asks every handler without exempt paths that has credentials for the service. -/
theorem asks_webRequest {n : Negotiator E} (hExempt : n.exempt = [])
    (hSelects : n.Selects "HTTP/web@R" credential) : n.Asks webRequest credential webTicket where
  notExempt := by
    rw [hExempt]
    exact List.not_mem_nil
  carried := negotiates_webRequest
  selected := ⟨"HTTP/web@R", by decide +kernel, hSelects⟩

/-- The provider is asked once about the token in the request, and the client whom it names is
authenticated by the short name; without credentials it is not asked. -/
theorem no_bypass_web :
    let credential : Credential := ⟨"HTTP/web", "web.keytab"⟩
    let answer : Except String Acceptance := .ok (.established "ann@R" none)
    let authorities : Authorities := ⟨fun _ => .error "", fun _ _ => answer⟩
    let bare : Request := { target := { path := "/" } }
    anyRealm.Asks webRequest credential webTicket ∧
    (anyRealm.authenticate webRequest).run authorities =
      .ok (.authenticated { user := "ann", principal := "ann@R", kind := "kerberos" } {}) ∧
    (anyRealm.authenticate webRequest).perform (m := StateM (List (Credential × Bytes)))
        (fun _ => pure (.error ""))
        (fun c ticket => do modify ((c, ticket) :: ·); return answer) =
      (do
        modify ((credential, webTicket) :: ·)
        return anyRealm.outcome answer) ∧
    ∃ result, ∀ (m : Type → Type) [Monad m] bind (accept : Credential → Bytes → m _),
      (anyRealm.authenticate bare).perform bind accept = pure result := by
  intro credential answer authorities bare
  have hAsks : anyRealm.Asks webRequest credential webTicket :=
    asks_webRequest rfl (credentialFor_eq_ok_iff.mp (by decide +kernel))
  have hNames : anyRealm.Names "ann@R"
      { user := "ann", principal := "ann@R", kind := "kerberos" } := by
    rw [← tokenOf_eq_ok_iff]
    decide +kernel
  refine ⟨hAsks, ?_, ?_, ?_⟩
  · rw [(no_bypass anyRealm webRequest).1]
    exact .inr ⟨credential, webTicket, "ann@R", none, hAsks, rfl, hNames, rfl⟩
  · exact ((no_bypass anyRealm webRequest).2.1 credential webTicket hAsks _ _ _).trans (by rfl)
  · refine (no_bypass anyRealm bare).2.2.1 ?_
    intro other ticket hOther
    obtain ⟨-, encoded, hCarried, -⟩ := asks_iff.mp hOther
    cases hCarried

end Negotiator

end SignOn
