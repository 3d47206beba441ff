import SignOn.Client.SessionCookie
import SignOn.Endpoint.Negotiator
import SignOn.Http.Url.Read

/-!
# Conversations

What a client does on behalf of a user: it sends requests, talks to its security provider and keeps
a session cookie. The transport and the provider may behave in any way that depends on what they
have been asked so far, so each is a function of that history. A failure does not undo what has
been done.
-/

namespace SignOn

open SignOn.Http (Request Response Target Url)
open SignOn.Text (Bytes)

/-- Which answer the last of some requests gets. -/
abbrev Transport := List Request → Except String Response

/-- Which token a security context gives for the last of the tokens it was given, and whether it is
then established. -/
abbrev SecurityContext := List Bytes → Except String (Bytes × Bool)

/-- Which security context there is for a service. -/
abbrev Initiator := String → Except String SecurityContext

/-- A call to the security provider. -/
inductive SecurityCall where
  | context (service : String)
  | step (input : Bytes)
deriving DecidableEq, Repr

/-- The surroundings of a client. -/
structure Surroundings where
  transport : Transport
  /-- The time, in epoch milliseconds. -/
  now : Int

/-- What a client has done and what it keeps. -/
structure Conversation where
  cookie : SessionCookie := {}
  /-- The requests sent, in order. -/
  sent : List Request := []
  /-- The calls to the security provider, in order. -/
  calls : List SecurityCall := []
deriving DecidableEq, Repr

/-- A part of a conversation. -/
abbrev Talk := ExceptT Error (StateM Conversation)

namespace Talk

/-- The result of a part of a conversation, and the conversation after it. -/
def run {α : Type} (talk : Talk α) (c : Conversation) : Result α × Conversation :=
  StateT.run (ExceptT.run talk) c

/-- Ends with a failure of the negotiation. -/
def negotiationFails {α : Type} (fault : NegotiationFault) : Talk α :=
  throw ⟨.negotiation fault, none⟩

/-- Ends with a failure to send a request. -/
def requestFails {α : Type} (fault : RequestFault) : Talk α :=
  throw ⟨.request fault, none⟩

/-- Keeps another session cookie. -/
def keep (cookie : SessionCookie) : Talk Unit :=
  modify fun c => { c with cookie }

/-- Sends a request. -/
def send (s : Surroundings) (request : Request) : Talk Response := do
  modify fun c => { c with sent := c.sent ++ [request] }
  let c ← get
  match s.transport c.sent with
  | .ok response => return response
  | .error reason => requestFails (.transport reason)

/-- The request with the session cookie, if there is one that can be sent. -/
def withCookie (request : Request) (cookie : SessionCookie) : Request :=
  match cookie.field? with
  | some field => { request with headers := request.headers.append Http.cookieField field }
  | none => request

/-- The request with credentials, if there are any. -/
def withCredentials (request : Request) (credentials : Option Bytes) : Request :=
  match credentials with
  | some field =>
    { request with headers := request.headers.append Http.authorizationField field }
  | none => request

/-- Asks an endpoint what may be done with a URL, which makes it authenticate the client. -/
def probe (s : Surroundings) (url : Url) (credentials : Option Bytes) : Talk Response := do
  match Target.parse? url.text with
  | none => requestFails .badTarget
  | some target =>
    let c ← get
    let request := withCookie { method := "OPTIONS", target } c.cookie
    send s (withCredentials request credentials)

/-- Takes the session cookie from an answer. An answer that does not report success takes the
cookie away and ends with a failure. -/
def conclude (s : Surroundings) (url : Url) (response : Response) : Talk Unit := do
  if Http.Status.isSuccess response.status then
    let c ← get
    keep (c.cookie.afterAnswer s.now response.headers)
  else
    keep {}
    if response.status = 404 then throw ⟨.notFound, some url.text⟩
    else throw ⟨.status response.status, some url.text⟩

/-- The same part of a conversation, whose failures are about a URL. -/
def about {α : Type} (url : Url) (talk : Talk α) : Talk α :=
  tryCatch talk fun e => throw (e.withUrl url.text)

end Talk

end SignOn
