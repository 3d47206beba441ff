import SignOn.Endpoint.Gate

/-!
# Services behind a gate

A service answers requests together with the token of the user. Behind a gate it is called once
for each request that passes, and never for any other.
-/

namespace SignOn

open SignOn.Http (Request Response)

namespace Service

variable {m : Type → Type} [Monad m]

/-- An answer without a body. -/
def ofChallenge (c : Challenge) : Response where
  status := c.status
  headers := c.headers

/-- The answer if a cookie could not be issued. -/
def failed : Response where
  status := 500

/-- Answers a request as the gate has decided. -/
def answer (serve : Token → Request → m Response) (request : Request) :
    Result Decision → m Response
  | .ok (.proceed token headers) => do
    let response ← serve token request
    return { response with headers := response.headers.extend headers }
  | .ok (.respond challenge) => return ofChallenge challenge
  | .error _ => return failed

/-- Answers a request through a gate. -/
def guarded (g : Gate) (serve : Token → Request → m Response) (authorities : Authorities)
    (keys : Keyring) (now : Int64) (request : Request) : m Response :=
  answer serve request ((g.check keys now request).run authorities)

end Service

end SignOn
