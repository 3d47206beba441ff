import SignOn.Endpoint.Handler
import SignOn.Files
import SignOn.Kerberos.RuleSet
import SignOn.Kerberos.ServiceToken
import SignOn.Properties
import SignOn.Text.Base64

/-!
# Negotiated authentication

The handler for the scheme Negotiate. It reads from a token which service the client means, picks
the credential for that service, and asks the security provider about exactly this token. Some
paths can be exempt; there a request passes without a user.
-/

namespace SignOn

open SignOn.Text (Bytes)

/-- Whether a credential serves a principal. One without a realm serves every realm. -/
def Credential.accepts (c : Credential) (requested : String) : Bool :=
  if c.principal.toList.contains '@' then c.principal == requested
  else Text.before '@' requested.toList == c.principal.toList

/-- The field that carries a token of an exchange. -/
def negotiateText (token : Bytes) : String :=
  Scheme.negotiate.name ++ " " ++ Text.Base64.encode token

/-- Authenticates clients with the help of a security provider. -/
structure Negotiator (E : PatternEngine) where
  /-- The credentials, in the order in which they are looked at. -/
  credentials : List Credential
  /-- How the principal of a client becomes a user name. -/
  rules : RuleSet E := {}
  /-- The paths that are exempt. -/
  exempt : List String := []
deriving DecidableEq

namespace Negotiator

variable {E : PatternEngine}

/-- The kind of the tokens. -/
def usualKind : String := "kerberos"

/-- The key with the principal of the endpoint, or a star. -/
def principalKey : String := "kerberos.principal"

/-- The key with the keytab that holds the keys of the endpoint. -/
def keytabKey : String := "kerberos.keytab"

/-- The key with the rules for short names. -/
def rulesKey : String := "kerberos.name.rules"

/-- The key that says how strictly the rules are applied. -/
def mechanismKey : String := "kerberos.name.rules.mechanism"

/-- The key with the list of exempt paths. -/
def exemptKey : String := "kerberos.endpoint.whitelist"

/-- How the principals of web endpoints begin. -/
def endpointMark : String := "HTTP/"

/-- Whether a principal is that of a web endpoint. -/
def isEndpoint (principal : String) : Bool :=
  endpointMark.toList.isPrefixOf principal.toList

/-! ## Configuration -/

/-- The realm of the first credential. -/
def firstRealm? (credentials : List Credential) : Option String :=
  credentials.head?.bind fun c =>
    match PrincipalName.parse c.principal with
    | .ok name => name.realm
    | .error _ => none

/-- The rules with the realm of the first credential, if they have none of their own. -/
def localRules (credentials : List Credential) (rules : RuleSet E) : RuleSet E :=
  { rules with defaultRealm := rules.defaultRealm.orElse fun _ => firstRealm? credentials }

/-- The handler with other rules. -/
def withRules (n : Negotiator E) (rules : RuleSet E) : Negotiator E :=
  { n with rules := localRules n.credentials rules }

/-- The principals that a setting selects: a star means those of web endpoints in the keytab. -/
def principals (list : String → Except String (List String)) (principal keytab : String) :
    Result (List String) :=
  if Text.trim principal = "*" then
    match list keytab with
    | .error reason => misconfigured (.keytabUnreadable reason)
    | .ok all =>
      let found := all.filter isEndpoint
      if found.isEmpty then misconfigured (.noEndpointPrincipal keytab) else .ok found
  else .ok [Text.trim principal]

/-- A handler for a principal whose key is in a keytab. `list` gives the principals of a keytab. -/
def make (files : Files) (list : String → Except String (List String))
    (principal keytab : String) : Result (Negotiator E) := do
  if !files.has keytab then misconfigured (.missingKeytab keytab)
  let found ← principals list principal keytab
  let credentials := found.map fun p => ⟨p, keytab⟩
  .ok { credentials, rules := localRules credentials {} }

/-- Whether a text can be an exempt path: a slash and letters, digits or underscores. -/
def isPlainPath (path : String) : Bool :=
  match path.toList with
  | '/' :: rest => !rest.isEmpty && rest.all fun c => c.isAlphanum || c == '_'
  | _ => false

/-- Adds a path to those that are exempt. -/
def addExempt (paths : List String) (path : String) : Result (List String) :=
  if path = "" then .ok paths
  else if !isPlainPath path then misconfigured (.badWhitelist path)
  else .ok (if paths.contains path then paths else paths ++ [path])

/-- Adds the exempt paths of a list between commas or line breaks. -/
def withExempt (n : Negotiator E) (list : String) : Result (Negotiator E) := do
  let paths := (Text.piecesBy (fun c => c == ',' || c == '\n') list.toList).map fun cs =>
    Text.trim (String.ofList cs)
  let exempt ← paths.foldlM addExempt n.exempt
  .ok { n with exempt }

/-- Reads the rules from the configuration. -/
def rulesOf (props : Properties) : Result (RuleSet E) := do
  let rules ← match props.get? rulesKey with
    | some text => RuleSet.parse text
    | none => .ok {}
  match props.getTrimmed? mechanismKey with
  | some text =>
    let mechanism ← Mechanism.parse text
    .ok { rules with mechanism }
  | none => .ok rules

/-- Reads a handler from the configuration. -/
def ofProperties (files : Files) (list : String → Except String (List String))
    (props : Properties) : Result (Negotiator E) := do
  let principal ← (props.require principalKey).mapError fun _ => ⟨.configuration .noPrincipal, none⟩
  let keytab ← (props.require keytabKey).mapError fun _ => ⟨.configuration .noKeytab, none⟩
  let n ← make files list principal keytab
  let rules ← rulesOf props
  match props.get? exemptKey with
  | some paths => (n.withRules rules).withExempt paths
  | none => .ok (n.withRules rules)

/-! ## Requests -/

/-- The first credential that serves the principal of a web endpoint. -/
def credentialFor (n : Negotiator E) (principal : String) :
    Except NegotiationFault Credential :=
  if !isEndpoint principal then .error (.otherService principal)
  else
    match n.credentials.find? fun c => c.accepts principal with
    | some c => .ok c
    | none => .error (.notServed principal)

/-- The token in the credentials of a client, and the credential of the endpoint that it is for. -/
def readTicket (n : Negotiator E) (encoded : String) :
    Except NegotiationFault (Credential × Bytes) := do
  match Text.Base64.decode? encoded with
  | none => .error .notBase64
  | some token =>
    let principal ← ServiceToken.serverName token
    let credential ← n.credentialFor principal
    .ok (credential, token)

/-- The challenge that goes on with an exchange. -/
def goOn (output : Bytes) : Challenge where
  status := 401
  headers := .ofTexts [(Http.challengeField,
    if output.isEmpty then Scheme.negotiate.name else negotiateText output)]

/-- The token of a client whom the security provider knows. -/
def tokenOf (n : Negotiator E) (client : String) : Result Token := do
  let name ← PrincipalName.parse client
  let user ← n.rules.shortName name
  Token.make user client usualKind

/-- The fields with a last token for the client, if there is one. -/
def lastField (output : Option Bytes) : Http.Headers :=
  match output with
  | some token =>
    if token.isEmpty then {} else .ofTexts [(Http.challengeField, negotiateText token)]
  | none => {}

/-- The outcome that follows from the answer of the security provider. -/
def outcome (n : Negotiator E) (answer : Except String Acceptance) : Result Outcome :=
  match answer with
  | .error reason => negotiationFails (.refused reason)
  | .ok (.more output) => .ok (.challenge (goOn output))
  | .ok (.established client output) => do
    let token ← n.tokenOf client
    .ok (.authenticated token (lastField output))

/-- What is found out about a request. Without credentials of the scheme, the client is asked for
them. -/
def authenticate (n : Negotiator E) (request : Http.Request) : Attempt Outcome :=
  if n.exempt.contains request.target.path then .done (.ok (.ofToken .anonymous))
  else
    match (credentials? request).bind Scheme.negotiate.behind? with
    | none => .done (.ok (.challenge (.unauthorized .negotiate)))
    | some encoded =>
      match n.readTicket encoded with
      | .error fault => .done (negotiationFails fault)
      | .ok (credential, token) => .accept credential token n.outcome

/-- The handler that asks the security provider. -/
def handler (n : Negotiator E) : Handler where
  kind := usualKind
  tokenKinds := [usualKind]
  authenticate := n.authenticate

/-- A handler as a developer sees it. -/
def inspect (n : Negotiator E) : String :=
  Text.Inspect.record "SpnegoHandler" [
    ("type", Text.Inspect.quote usualKind),
    ("credentials", Text.Inspect.list (n.credentials.map Credential.inspect)),
    ("rules", n.rules.inspect),
    ("whitelist", Text.Inspect.set (n.exempt.map Text.Inspect.quote))]

end Negotiator

end SignOn
