import SignOn.Client.Authenticator

/-!
# Clients

A client authenticates once and then sends its requests with the session cookie. An answer that
does not report success ends the session.
-/

namespace SignOn

open SignOn.Http (Request Response Url)

namespace Client

/-- Whether a URL is for HTTP or HTTPS. -/
def isWeb (url : Url) : Bool :=
  url.scheme == "http" || url.scheme == "https"

/-- Makes sure that there is a session cookie: authenticates unless there is one. -/
def connect (s : Surroundings) (authenticator : Authenticator) (url : Url) : Talk Unit := do
  if !isWeb url then throw ⟨.request (.otherScheme url.scheme), some url.text⟩
  let c ← get
  if c.cookie.isSet then return ()
  else authenticator.authenticate s url

/-- Sends a request with the session cookie and takes over the cookie of the answer. -/
def execute (s : Surroundings) (request : Request) : Talk Response := do
  match Url.parse request.target.text with
  | .error fault => Talk.requestFails (.badUrl fault)
  | .ok url =>
    let c ← get
    let response ← Talk.about url (Talk.send s (Talk.withCookie request c.cookie))
    Talk.conclude s url response
    return response

end Client

end SignOn
