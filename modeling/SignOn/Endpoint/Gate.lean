import SignOn.Endpoint.Policy
import SignOn.Endpoint.Registry
import SignOn.Keyring.Provider
import SignOn.Session.Signature

/-!
# Gates

A gate stands in front of a service. A request with a session cookie that is good passes without
further questions; for any other request the handler decides, and whoever it authenticates gets a
session cookie. A cookie that is no good is cleared. The secrets and the time are those at the
moment of the request.
-/

namespace SignOn

open SignOn.Http (Headers Request)

/-- A handler with the policy for its sessions. -/
structure Gate where
  handler : Handler
  policy : SessionPolicy := {}

/-- What is to be done with a request. -/
inductive Decision where
  /-- The request passes; the fields are added to the answer. -/
  | proceed (token : Token) (headers : Headers)
  /-- The client gets this answer. -/
  | respond (challenge : Challenge)
deriving DecidableEq, Repr

/-- What the session cookie of a request says. -/
inductive Presented where
  | absent
  /-- There is a cookie, but it is no good. -/
  | rejected
  | valid (token : Token)
deriving DecidableEq, Repr

namespace Gate

/-! ## Cookies -/

/-- The text of a cookie as a field, or a failure if it cannot stand there. -/
def cookieField (cookie : Http.Cookie) : Result Text.Bytes :=
  match Headers.value? cookie.text with
  | some value => .ok value
  | none => misconfigured .badCookieText

/-- The token of a signed text, if it is signed with a secret in effect, is of one of the accepted
kinds and has not expired. -/
def tokenOf? (g : Gate) (keys : Keyring) (now : Int64) (signed : String) : Option Token :=
  match (Signature.verify keys signed).bind Token.parse with
  | .ok token =>
    if g.handler.tokenKinds.contains token.kind && !token.isExpired now then some token else none
  | .error _ => none

/-- What the session cookie of a request says. -/
def presented (g : Gate) (keys : Keyring) (now : Int64) (request : Request) : Presented :=
  match Http.Cookie.value? request.headers SessionPolicy.cookieName with
  | none => .absent
  | some value =>
    match g.tokenOf? keys now (Text.unquote value) with
    | some token => .valid token
    | none => .rejected

/-- Adds the session cookie for a token to header fields. -/
def issue (g : Gate) (keys : Keyring) (now : Int64) (secure : Bool) (token : Token)
    (headers : Headers) : Result Headers := do
  let signed ← Signature.sign keys token.encode
  let field ← cookieField (g.policy.cookie signed token.expires secure now)
  .ok (headers.append Http.setCookieField field)

/-- The decision to answer with a challenge, which clears the cookie if it was rejected. -/
def refuse (g : Gate) (secure rejected : Bool) (challenge : Challenge) : Result Decision := do
  if rejected then
    let field ← cookieField (g.policy.clearing secure)
    .ok (.respond (challenge.withField Http.setCookieField field))
  else .ok (.respond challenge)

/-! ## Decisions -/

/-- The decision about a request with a session cookie that is good. -/
def resume (g : Gate) (keys : Keyring) (now : Int64) (secure : Bool) (token : Token) :
    Result Decision :=
  if g.policy.maxInactive.isSome then do
    let token := g.policy.refresh token now
    let headers ← g.issue keys now secure token {}
    .ok (.proceed token headers)
  else .ok (.proceed token {})

/-- The decision about a request that the handler has authenticated. Access without a user makes no
session. -/
def welcome (g : Gate) (keys : Keyring) (now : Int64) (secure : Bool) (token : Token)
    (headers : Headers) : Result Decision :=
  if token.isAnonymous then .ok (.proceed token headers)
  else do
    let token := g.policy.refresh (token.setExpires (g.policy.expiry now)) now
    let headers ← g.issue keys now secure token headers
    .ok (.proceed token headers)

/-- A challenge as clients see it: without a scheme to use, the request is forbidden. -/
def shown (challenge : Challenge) : Challenge :=
  if challenge.status = 401 ∧ challenge.headers.has Http.challengeField = false then
    { challenge with status := 403 }
  else challenge

/-- The decision that follows from what the handler says. -/
def decide (g : Gate) (keys : Keyring) (now : Int64) (secure rejected : Bool)
    (outcome : Result Outcome) : Result Decision :=
  match outcome with
  | .ok (.authenticated token headers) => g.welcome keys now secure token headers
  | .ok (.challenge challenge) => g.refuse secure rejected (shown challenge)
  | .error _ => g.refuse secure rejected { status := 403 }

/-- Decides about a request. A failure means that a cookie could not be issued. -/
def check (g : Gate) (keys : Keyring) (now : Int64) (request : Request) : Attempt Decision :=
  let secure := request.target.isSecure
  match g.presented keys now request with
  | .valid token => .done (g.resume keys now secure token)
  | .rejected => (g.handler.authenticate request).andThen (g.decide keys now secure true)
  | .absent => (g.handler.authenticate request).andThen (g.decide keys now secure false)

/-! ## Configuration -/

/-- The key with the start of the keys that are read. -/
def scopeKey : String := "config.prefix"

/-- The key with the kind of the handler. -/
def kindKey : String := "type"

/-- The part of a configuration that is read. -/
def scope (props : Properties) : Properties :=
  match props.getTrimmed? scopeKey with
  | some head => if head = "" then props else props.within (head ++ ".")
  | none => props

/-- The kind of handler that the configuration names. -/
def kindFor (props : Properties) : Result String :=
  (props.require kindKey).mapError fun _ => ⟨.configuration .noHandlerType, none⟩

/-- Reads a gate and where its secrets come from. -/
def ofProperties (c : Collaborators) (hasStore : Bool) (props : Properties) :
    Making (Gate × Provision) := do
  let props := scope props
  let kind ← kindFor props
  let handler ← .create c props kind
  let policy ← SessionPolicy.ofProperties props
  let provision ← Provision.ofProperties c.files hasStore props
  return ({ handler, policy }, provision)

/-- A gate as a developer sees it. -/
def inspect (g : Gate) : String :=
  Text.Inspect.partialRecord "AuthenticationFilter" [
    ("handler", g.handler.inspect),
    ("config", g.policy.inspect)]

end Gate

end SignOn
