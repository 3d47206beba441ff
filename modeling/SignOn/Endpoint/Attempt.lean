import SignOn.Error

/-!
# Attempts to authenticate

An endpoint asks at most one outside authority about a request: a directory, whether a password is
right, or a security provider, whether a token is good. An attempt is either decided or it is such
a question together with what follows from each answer. So an attempt is a plain value: that no
authority is asked twice, or asked with anything else, can be read off it.
-/

namespace SignOn

open SignOn.Text (Bytes)

/-- How a connection to the directory is secured. -/
inductive BindTransport where
  /-- As the scheme of the directory's URL says. -/
  | plain
  /-- A plain connection is upgraded. -/
  | startTls
deriving DecidableEq, Repr

/-- The question whether a directory accepts a password for a name. -/
structure BindRequest where
  /-- The URL of the directory. -/
  url : String
  /-- The name of the entry in the directory. -/
  name : String
  password : String
  transport : BindTransport
  /-- Whether any host name of the directory is accepted when the connection is upgraded. -/
  anyHost : Bool
deriving DecidableEq, Repr

/-- A principal whose key an endpoint holds, with the keytab that holds it. -/
structure Credential where
  principal : String
  keytab : String
deriving DecidableEq, Repr

/-- What a security provider says about a token of a client. -/
inductive Acceptance where
  /-- The exchange goes on with this token for the client. -/
  | more (output : Bytes)
  /-- The client is known, and may be sent a last token. -/
  | established (client : String) (output : Option Bytes)
deriving DecidableEq, Repr

/-- An attempt to authenticate a request. -/
inductive Attempt (α : Type) where
  | done (result : Result α)
  /-- The directory is asked. -/
  | bind (request : BindRequest) (next : Except String Unit → Result α)
  /-- The security provider is asked about the token of a client. -/
  | accept (credential : Credential) (token : Bytes) (next : Except String Acceptance → Result α)

/-- What an authority can be asked. -/
inductive Question where
  | bind (request : BindRequest)
  | accept (credential : Credential) (token : Bytes)
deriving DecidableEq, Repr

/-- The outside authorities of an endpoint. -/
structure Authorities where
  bind : BindRequest → Except String Unit
  accept : Credential → Bytes → Except String Acceptance

namespace Attempt

variable {α β : Type}

/-- The attempt that goes on from each result with `f`. -/
def andThen (attempt : Attempt α) (f : Result α → Result β) : Attempt β :=
  match attempt with
  | .done result => .done (f result)
  | .bind request next => .bind request fun answer => f (next answer)
  | .accept credential token next => .accept credential token fun answer => f (next answer)

/-- The question that an attempt asks, if it asks one. -/
def question? : Attempt α → Option Question
  | .done _ => none
  | .bind request _ => some (.bind request)
  | .accept credential token _ => some (.accept credential token)

/-- The result of an attempt once the authorities have answered. -/
def run (authorities : Authorities) : Attempt α → Result α
  | .done result => result
  | .bind request next => next (authorities.bind request)
  | .accept credential token next => next (authorities.accept credential token)

end Attempt

/-- The name of a transport as a developer sees it. -/
def BindTransport.inspect : BindTransport → String
  | .plain => "Plain"
  | .startTls => "StartTls"

/-- A question to the directory as a developer sees it, without the password. -/
def BindRequest.inspect (r : BindRequest) : String :=
  Text.Inspect.partialRecord "BindRequest" [
    ("provider_url", Text.Inspect.quote r.url),
    ("bind_dn", Text.Inspect.quote r.name),
    ("transport", r.transport.inspect),
    ("disable_hostname_verification", Text.Inspect.bool r.anyHost)]

/-- A credential as a developer sees it. -/
def Credential.inspect (c : Credential) : String :=
  Text.Inspect.record "ServerCredential" [
    ("principal", Text.Inspect.quote c.principal),
    ("keytab", Text.Inspect.quote c.keytab)]

end SignOn
