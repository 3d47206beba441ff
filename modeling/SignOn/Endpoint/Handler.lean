import SignOn.Endpoint.Attempt
import SignOn.Endpoint.Scheme
import SignOn.Session.Token

/-!
# Handlers

A handler looks at a request and either knows who sent it or says what the client has to do.
-/

namespace SignOn

open SignOn.Http (Headers)

/-- An answer that tells a client how to authenticate. -/
structure Challenge where
  status : Nat
  headers : Headers := {}
deriving DecidableEq, Repr

/-- What a handler finds out about a request. -/
inductive Outcome where
  /-- The request comes from the user of this token; the fields are added to the answer. -/
  | authenticated (token : Token) (headers : Headers)
  /-- The client has to try again with credentials. -/
  | challenge (challenge : Challenge)
deriving DecidableEq, Repr

/-- The challenge to use a scheme. -/
def Challenge.unauthorized (s : Scheme) : Challenge where
  status := 401
  headers := .ofTexts [(Http.challengeField, s.name)]

/-- The challenge with one more field. -/
def Challenge.withField (c : Challenge) (name : String) (value : Text.Bytes) : Challenge :=
  { c with headers := c.headers.append name value }

/-- The outcome for a user without further fields in the answer. -/
def Outcome.ofToken (token : Token) : Outcome :=
  .authenticated token {}

/-- One way of authenticating requests. -/
structure Handler where
  /-- The kind of the tokens that the handler makes. -/
  kind : String
  /-- The kinds of tokens that are accepted in front of the handler. -/
  tokenKinds : List String
  authenticate : Http.Request → Attempt Outcome

/-- A handler as a developer sees it. -/
def Handler.inspect (h : Handler) : String :=
  Text.Inspect.record "AuthenticationHandler" [("type", Text.Inspect.quote h.kind)]

end SignOn
