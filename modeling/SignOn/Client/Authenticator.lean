import SignOn.Client.Conversation
import SignOn.Endpoint.Pseudo

/-!
# Authenticators

How a client gets a session cookie from an endpoint: by claiming a user name, or by an exchange of
tokens with its security provider. The exchange takes place if the endpoint offers to negotiate;
otherwise another authenticator is tried.
-/

namespace SignOn

open SignOn.Http (Headers Response Url)
open SignOn.Text (Bytes)

/-- A way for a client to authenticate. -/
inductive Authenticator where
  /-- The client claims a user name, if it has one. -/
  | pseudo (user : Option String)
  /-- The client negotiates, or else uses another way. -/
  | negotiate (initiator : Initiator) (fallback : Authenticator)

/-- What an endpoint offers to a client that may negotiate. -/
inductive Offer where
  /-- The exchange can begin. -/
  | bare
  /-- The exchange goes on with this token. -/
  | token (bytes : Bytes)
deriving DecidableEq, Repr

namespace Offer

/-- Reads the offer in a challenge, if it is one to negotiate. -/
def read? (challenge : String) : Option Offer :=
  let text := Text.trim challenge
  if Text.sameText text Scheme.negotiate.name then some .bare
  else if Text.beginsWithText (Scheme.negotiate.name ++ " ") text then
    let encoded := Text.trim (String.ofList (text.toList.drop Scheme.negotiate.name.toList.length))
    (Text.Base64.decode? encoded).map .token
  else none

/-- The last offer to negotiate in the challenges of an answer. -/
def inHeaders? (headers : Headers) : Option Offer :=
  ((headers.texts Http.challengeField).filterMap read?).getLast?

end Offer

namespace Authenticator

/-- The greatest number of rounds of an exchange. -/
def maxRounds : Nat := 5

/-- The kinds of tokens that mean that the endpoint knows the client from a negotiation. -/
def negotiatedKinds : List String := ["kerberos", "kerberos-dt"]

/-- The way of claiming the name of the user of this system, if it is known and not blank. -/
def ofSystemUser (user : Option String) : Authenticator :=
  .pseudo (user.filter (· != ""))

/-- The service at the host of a URL. -/
def service? (url : Url) : Option String :=
  url.hostText?.map fun host => "HTTP/" ++ Text.lowercase host

/-- The token of the endpoint in an answer within an exchange. -/
def answerToken (response : Response) : Except NegotiationFault Bytes :=
  if response.status ≠ 200 ∧ response.status ≠ 401 then
    .error (.unexpectedStatus response.status)
  else
    match Offer.inHeaders? response.headers with
    | some (.token bytes) => .ok bytes
    | _ => .error .noAnswerToken

/-- Sends a token to the endpoint, if there is one, and answers the latest answer. -/
def sendToken (s : Surroundings) (url : Url) (output : Bytes) (last : Response) :
    Talk Response :=
  if output.isEmpty then return last
  else Talk.probe s url (some (Text.Utf8.encode (negotiateText output)))

/-- The rounds of an exchange. `inputs` are the tokens given to the security context so far, `input`
is the next one, and `last` is the latest answer of the endpoint, which decides the outcome once the
context is established. -/
def rounds (s : Surroundings) (url : Url) (context : SecurityContext) :
    Nat → List Bytes → Bytes → Response → Talk Unit
  | 0, _, _, _ => Talk.negotiationFails .tooManyRounds
  | n + 1, inputs, input, last => do
    modify fun c => { c with calls := c.calls ++ [.step input] }
    let inputs := inputs ++ [input]
    match context inputs with
    | .error reason => Talk.negotiationFails (.initializeFailed reason)
    | .ok (output, isEstablished) =>
      let last ← sendToken s url output last
      if isEstablished then Talk.conclude s url last
      else
        match answerToken last with
        | .error fault => Talk.negotiationFails fault
        | .ok input => rounds s url context n inputs input last

/-- Exchanges tokens with the endpoint after it has offered to negotiate. -/
def handshake (s : Surroundings) (initiator : Initiator) (url : Url) (first : Response) :
    Talk Unit := do
  match service? url with
  | none => Talk.negotiationFails .noHost
  | some service =>
    modify fun c => { c with calls := c.calls ++ [.context service] }
    match initiator service with
    | .error reason => Talk.negotiationFails (.noContext service reason)
    | .ok context => rounds s url context maxRounds [] [] first

/-- Whether the session cookie is that of a negotiated session. -/
def isNegotiated (cookie : SessionCookie) : Result Bool :=
  match cookie.value? with
  | some value => (Token.parse value).map fun token => negotiatedKinds.contains token.kind
  | none => .ok false

/-- What a client does after the first answer of the endpoint. -/
inductive Course where
  /-- The endpoint has authenticated the client already. -/
  | finished
  | handshake
  | fallback
deriving DecidableEq, Repr

/-- What a client does after the first answer of the endpoint. -/
def course (s : Surroundings) (url : Url) (first : Response) : Talk Course := do
  if first.status = 200 then
    Talk.conclude s url first
    let c ← get
    if ← liftM (isNegotiated c.cookie) then return .finished
    else return .fallback
  else if first.status = 401 ∧ (Offer.inHeaders? first.headers).isSome then return .handshake
  else return .fallback

/-- Claims a user name. -/
def claim (s : Surroundings) (url : Url) (user : Option String) : Talk Unit := do
  let url := match user with
    | some name => url.withPair PseudoHandler.userField name
    | none => url
  let response ← Talk.probe s url none
  Talk.conclude s url response

/-- Gets a session cookie for a URL. -/
def authenticate (s : Surroundings) (url : Url) : Authenticator → Talk Unit
  | .pseudo user => claim s url user
  | .negotiate initiator fallback => do
    let c ← get
    if c.cookie.isSet then return ()
    Talk.about url do
      let first ← Talk.probe s url none
      match ← course s url first with
      | .finished => return ()
      | .handshake => handshake s initiator url first
      | .fallback => authenticate s url fallback

end Authenticator

end SignOn
