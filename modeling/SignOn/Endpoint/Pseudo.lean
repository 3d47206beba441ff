import SignOn.Endpoint.Handler
import SignOn.Http.Form
import SignOn.Properties

/-!
# Claimed user names

The handler that takes a client to be the user whom its query names. It may let requests without a
name pass without a user.
-/

namespace SignOn

/-- Takes clients at their word. -/
structure PseudoHandler where
  /-- The kind of the tokens. -/
  kind : String := "simple"
  /-- Whether requests without a name pass. -/
  anonymousAllowed : Bool := false
deriving DecidableEq, Repr

namespace PseudoHandler

/-- The usual kind of the tokens. -/
def usualKind : String := "simple"

/-- The key that says whether requests without a name pass. -/
def anonymousKey : String := "simple.anonymous.allowed"

/-- The name of the pair in a query that names the user. -/
def userField : String := "user.name"

/-- The user whom the query of a request names. -/
def userName? (request : Http.Request) : Option String :=
  (request.target.query).bind fun query => (Http.Form.pairs query).lookup userField

/-- The challenge for a request without a name. -/
def nameMissing : Challenge where
  status := 403
  headers := .ofTexts [(Http.challengeField, "PseudoAuth")]

/-- What is found out about a request. -/
def outcome (h : PseudoHandler) (request : Http.Request) : Result Outcome :=
  match userName? request with
  | some name => (Token.make name name h.kind).map .ofToken
  | none => .ok (if h.anonymousAllowed then .ofToken .anonymous else .challenge nameMissing)

/-- The handler that asks no authority. -/
def handler (h : PseudoHandler) : Handler where
  kind := h.kind
  tokenKinds := [h.kind]
  authenticate request := .done (h.outcome request)

/-- Reads a handler from the configuration. -/
def ofProperties (props : Properties) : Result PseudoHandler := do
  let anonymousAllowed ← props.getBool anonymousKey false
  .ok { anonymousAllowed }

end PseudoHandler

end SignOn
