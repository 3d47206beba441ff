import SignOn.Http.Status
import SignOn.Text.Inspect
import SignOn.Text.Utf8

/-!
# What can go wrong

Every failure is a cause, in one of ten families, and possibly the URL it concerns. The wording of
a cause stands in the `message` function of its family and nowhere else; `Error.message` puts the
parts together.
-/

namespace SignOn

open SignOn.Text (Utf8.Fault)

/-- Why a text is no session token, or fields make none. -/
inductive TokenFault where
  /-- A field is empty or holds the separator. -/
  | badField (name : String)
  /-- A part of the text has no equals sign. -/
  | badPair
  /-- A required attribute is missing. -/
  | missingAttribute
  /-- An attribute is not a 64-bit integer. -/
  | badNumber (key value : String)
deriving DecidableEq, Repr

/-- The wording of a token fault. -/
def TokenFault.message : TokenFault → String
  | .badField name => s!"{name} is empty or contains a '&'"
  | .badPair => "Invalid authentication token"
  | .missingAttribute => "Invalid token string, missing attributes"
  | .badNumber key value => s!"Invalid value for '{key}' attribute: {value}"

/-- Why a text cannot be signed, or its signature is not accepted. -/
inductive SignatureFault where
  | nothingToSign
  | noSignature
  | mismatch
deriving DecidableEq, Repr

/-- The wording of a signature fault. -/
def SignatureFault.message : SignatureFault → String
  | .nothingToSign => "NULL or empty string to sign"
  | .noSignature => "Invalid signed text: missing signature"
  | .mismatch => "Invalid signature"

/-- Why bytes are not the expected tag-length-value element. -/
inductive DerFault where
  /-- An element was asked for inside one that has none left. -/
  | noElement (tag : UInt8)
  | truncatedElement
  | truncatedLength
  | invalidLength
  | truncatedContent
  /-- No element was found at the end of this path of tags. -/
  | tagNotFound (path : List UInt8)
  /-- The content is not text. -/
  | notText (fault : Utf8.Fault)
deriving DecidableEq, Repr

/-- A tag in hexadecimal. -/
def hexTag (tag : UInt8) : String :=
  "0x" ++ Text.Inspect.hex tag.toNat

/-- The wording of a fault in an element. -/
def DerFault.message : DerFault → String
  | .noElement tag => s!"no element left inside tag {hexTag tag}"
  | .truncatedElement => "truncated DER element"
  | .truncatedLength => "truncated DER length"
  | .invalidLength => "invalid DER length"
  | .truncatedContent => "truncated DER content"
  | .tagNotFound path => "Tag not found " ++ String.join (path.map hexTag)
  | .notText fault => fault.message

/-- Why a negotiation between a client and an endpoint fails. -/
inductive NegotiationFault where
  /-- The token is not well-formed. -/
  | der (fault : DerFault)
  /-- The token does not name the expected mechanism. -/
  | otherMechanism
  /-- The token is not the first one of an exchange. -/
  | notInitial
  /-- A rule gave a name with more than one part. -/
  | nonSimpleName (name rule : String)
  /-- No rule applies to a name. -/
  | noRuleApplies (name : String)
  /-- The token is not canonical base64. -/
  | notBase64
  /-- The token is for a service that is no web endpoint. -/
  | otherService (principal : String)
  /-- The token is for an endpoint served elsewhere. -/
  | notServed (principal : String)
  /-- The security provider refused the token. -/
  | refused (reason : String)
  /-- The URL does not say which host to authenticate to. -/
  | noHost
  | noContext (service reason : String)
  | initializeFailed (reason : String)
  /-- An answer within the exchange has an unexpected status. -/
  | unexpectedStatus (status : Nat)
  /-- An answer within the exchange carries no token. -/
  | noAnswerToken
  | tooManyRounds
deriving DecidableEq, Repr

/-- The wording of a negotiation fault. The detail of a base64 fault is left open. -/
def NegotiationFault.message : NegotiationFault → String
  | .der fault => fault.message
  | .otherMechanism => "Malformed gss token"
  | .notInitial => "Not an AP-REQ token"
  | .nonSimpleName name rule => s!"Non-simple name {name} after auth_to_local rule {rule}"
  | .noRuleApplies name => s!"No rules applied to {name}"
  | .notBase64 => "<base64>"
  | .otherService principal =>
    s!"Invalid server principal {principal} decoded from the client request"
  | .notServed principal => s!"Server principal {principal} is not served by this endpoint"
  | .refused reason => reason
  | .noHost => "URL has no host for SPN"
  | .noContext service reason => s!"could not create a security context for {service}: {reason}"
  | .initializeFailed reason => s!"InitializeContext failed: {reason}"
  | .unexpectedStatus status => s!"Invalid SPNEGO sequence, status code: {status}"
  | .noAnswerToken => "Invalid SPNEGO sequence, 'WWW-Authenticate' header incorrect"
  | .tooManyRounds => "Too many authentication round-trips"

/-- Why a configuration is refused. -/
inductive ConfigurationFault where
  /-- A required key is missing or blank. -/
  | unspecified (key : String)
  /-- The list under a key has no item. -/
  | emptyList (key : String)
  | notBoolean (key value : String)
  | notInteger (key value : String)
  /-- A principal name has a misplaced separator. -/
  | malformedName (name : String)
  | unknownMechanism (text : String)
  /-- No rule begins with this text. -/
  | invalidRule (rest : String)
  /-- A rule holds a malformed pattern. -/
  | invalidPattern
  /-- A name template refers to a part without a number. -/
  | badTemplate (template : String)
  /-- A name template refers to a part beyond the last. -/
  | noSuchPart (index : Nat) (template : String) (last : Nat)
  | emptySecret
  | nonPositiveInterval
  | unreadableSecretFile (path reason : String)
  | emptySecretFile (path : String)
  | unknownProvider (provider : String)
  | noConnector
  | badStoreAuth (key value : String)
  | missingStoreKeytab (keytab : String)
  | unsupportedScheme (scheme : String)
  | schemeTaken (scheme : String)
  | schemeWithoutHandler (scheme : String)
  | nestedDispatch (scheme handler : String)
  | doubleEncryption
  | noDirectory
  | ambiguousNaming
  | missingKeytab (keytab : String)
  | keytabUnreadable (reason : String)
  | noEndpointPrincipal (keytab : String)
  | noPrincipal
  | noKeytab
  | badWhitelist (endpoint : String)
  | unknownHandler (name : String)
  | noAcceptor
  | noBinder
  | noHandlerType
  | badValidity (key : String) (seconds : Int64)
  | badCookieText
deriving DecidableEq, Repr

/-- The wording of a configuration fault. The detail of a pattern fault is left open. -/
def ConfigurationFault.message : ConfigurationFault → String
  | .unspecified key => s!"{key} must be specified"
  | .emptyList key => s!"{key} must not be empty"
  | .notBoolean key value => s!"{key} must be 'true' or 'false', got '{value}'"
  | .notInteger key value => s!"{key} must be an integer, got '{value}'"
  | .malformedName name => s!"Malformed Kerberos name: {name}"
  | .unknownMechanism text => s!"Invalid rule mechanism: {text}"
  | .invalidRule rest => s!"Invalid rule: {rest}"
  | .invalidPattern => "Invalid rule pattern: <regex>"
  | .badTemplate template => s!"bad format in username mapping in {template}"
  | .noSuchPart index template last =>
    s!"index {index} from {template} is outside of the valid range 0 to {last}"
  | .emptySecret => "secret cannot be empty"
  | .nonPositiveInterval => "rollover interval must be positive"
  | .unreadableSecretFile path reason => s!"could not read signature secret file {path}: {reason}"
  | .emptySecretFile path => s!"signature secret file {path} is empty"
  | .unknownProvider provider => s!"unknown signer.secret.provider '{provider}'"
  | .noConnector => "the coordinated secret source needs a store connector"
  | .badStoreAuth key value => s!"{key} must be 'none' or 'sasl', got '{value}'"
  | .missingStoreKeytab keytab => s!"store keytab {keytab} does not exist"
  | .unsupportedScheme scheme =>
    s!"Unsupported HTTP authentication scheme {scheme} . " ++
      "Supported schemes are [Basic, Negotiate, Digest]"
  | .schemeTaken scheme => s!"Handler is already specified for {scheme} authentication scheme."
  | .schemeWithoutHandler scheme => s!"No auth handler configured for scheme {scheme}"
  | .nestedDispatch scheme handler =>
    s!"Scheme {scheme} can not be handled by another {handler} handler"
  | .doubleEncryption => "Can not use ldaps and StartTls option at the same time"
  | .noDirectory => "The LDAP URI can not be empty"
  | .ambiguousNaming => "Either LDAP base DN or LDAP domain value needs to be specified"
  | .missingKeytab keytab => s!"Keytab does not exist: {keytab}"
  | .keytabUnreadable reason => reason
  | .noEndpointPrincipal keytab => s!"No HTTP principals exist in the keytab {keytab}"
  | .noPrincipal => "Principal not defined in configuration"
  | .noKeytab => "Keytab not defined in configuration"
  | .badWhitelist endpoint =>
    s!"The element of the whitelist: {endpoint} must start with '/' and must not contain " ++
      "special characters afterwards"
  | .unknownHandler name => s!"Unknown authentication handler type: {name}"
  | .noAcceptor => "kerberos handler requires a GSS acceptor"
  | .noBinder => "ldap handler requires a directory binder"
  | .noHandlerType => "Authentication type must be specified: simple|kerberos|<type>"
  | .badValidity key seconds => s!"{key} must be positive, got {Text.Decimal.print seconds}"
  | .badCookieText => "cookie attributes are not valid header text"

/-- Why a user is not validated by the directory. -/
inductive DirectoryFault where
  | blankUser
  | blankPassword
  /-- The directory refused the credentials for this name. -/
  | refused (name : String)
deriving DecidableEq, Repr

/-- The wording of a directory fault; it never shows a password. -/
def DirectoryFault.message : DirectoryFault → String
  | .blankUser => "a null or blank username has been provided"
  | .blankPassword => "a null or blank password has been provided"
  | .refused name => s!"bind failed for {name}"

/-- Why a call to the coordination store fails. -/
inductive StoreFault where
  | alreadyExists
  | notFound
  | badVersion
  /-- The store could not be asked. -/
  | unavailable (reason : String)
deriving DecidableEq, Repr

/-- The wording of a store fault. -/
def StoreFault.message : StoreFault → String
  | .alreadyExists => "record already exists"
  | .notFound => "record not found"
  | .badVersion => "record version changed"
  | .unavailable reason => s!"store unavailable: {reason}"

/-- Why bytes from the store are no secret record. -/
inductive RecordFault where
  | truncated
  /-- The record has a newer layout. -/
  | newerLayout (version : Int32)
  | invalidLength (length : Int32)
  | emptySecret
deriving DecidableEq, Repr

/-- The wording of a record fault. -/
def RecordFault.message : RecordFault → String
  | .truncated => "secret record is truncated"
  | .newerLayout version =>
    "Cannot parse secret record; data version " ++
      String.ofList (Text.Decimal.printInt version.toInt) ++ " is newer than 0"
  | .invalidLength length =>
    "secret record has an invalid length " ++ String.ofList (Text.Decimal.printInt length.toInt)
  | .emptySecret => "secret record holds an empty secret"

/-- Why a text is no URL. -/
inductive UrlFault where
  | emptyHost
  | invalidDomain
  | invalidPort
  | invalidIpv4
  | invalidIpv6
  | invalidDomainCharacter
  | relativeWithoutBase
deriving DecidableEq, Repr

/-- The wording of a URL fault. -/
def UrlFault.message : UrlFault → String
  | .emptyHost => "empty host"
  | .invalidDomain => "invalid international domain name"
  | .invalidPort => "invalid port number"
  | .invalidIpv4 => "invalid IPv4 address"
  | .invalidIpv6 => "invalid IPv6 address"
  | .invalidDomainCharacter => "invalid domain character"
  | .relativeWithoutBase => "relative URL without a base"

/-- Why a request cannot be sent. -/
inductive RequestFault where
  /-- The URL is not a possible target of a request. -/
  | badTarget
  | badUrl (fault : UrlFault)
  /-- The transport failed. -/
  | transport (reason : String)
  /-- The URL is neither for HTTP nor for HTTPS. -/
  | otherScheme (scheme : String)
deriving DecidableEq, Repr

/-- The wording of a request fault. The detail of a bad target is left open. -/
def RequestFault.message : RequestFault → String
  | .badTarget => "<http>"
  | .badUrl fault => fault.message
  | .transport reason => reason
  | .otherScheme scheme => s!"URL must be for HTTP/HTTPS, got {scheme}"

/-- What went wrong. -/
inductive Cause where
  | decode (fault : TokenFault)
  | signature (fault : SignatureFault)
  | negotiation (fault : NegotiationFault)
  | configuration (fault : ConfigurationFault)
  /-- Another process has written the record since it was read. -/
  | conflict
  | directory (fault : DirectoryFault)
  | store (fault : StoreFault)
  | record (fault : RecordFault)
  /-- A server answered with this status. -/
  | status (code : Nat)
  /-- A server does not know the resource. -/
  | notFound
  | request (fault : RequestFault)
deriving DecidableEq, Repr

/-- The family of a cause as a developer sees it. -/
def Cause.family : Cause → String
  | .decode _ => "Decode"
  | .signature _ => "Signature"
  | .negotiation _ => "Negotiation"
  | .configuration _ => "Configuration"
  | .conflict => "Conflict"
  | .directory _ => "DirectoryBind"
  | .store _ | .record _ => "Store"
  | .status code => s!"Status({code})"
  | .notFound => "NotFound"
  | .request _ => "Request"

/-- The opening words of a message. -/
def Cause.heading : Cause → String
  | .decode _ => "error decoding authentication token"
  | .signature _ => "invalid signature"
  | .negotiation _ => "negotiation error"
  | .configuration _ => "configuration error"
  | .conflict => "coordination write conflict"
  | .directory _ => "error validating directory user"
  | .store _ | .record _ => "coordination store error"
  | .status code =>
    s!"authentication failed, {Http.Status.className code} ({Http.Status.text code})"
  | .notFound => "resource not found"
  | .request _ => "error sending request"

/-- The particulars of a cause, if it has any. -/
def Cause.detail? : Cause → Option String
  | .decode fault => some fault.message
  | .signature fault => some fault.message
  | .negotiation fault => some fault.message
  | .configuration fault => some fault.message
  | .conflict => some StoreFault.badVersion.message
  | .directory fault => some fault.message
  | .store fault => some fault.message
  | .record fault => some fault.message
  | .request fault => some fault.message
  | .status _ | .notFound => none

/-- A failure: its cause and the URL it concerns, if any. -/
structure Error where
  cause : Cause
  url : Option String := none
deriving DecidableEq, Repr

namespace Error

/-- The failure of a store call. -/
def ofStore : StoreFault → Error
  | .badVersion => ⟨.conflict, none⟩
  | fault => ⟨.store fault, none⟩

/-- The same failure, about a URL. -/
def withUrl (e : Error) (url : String) : Error :=
  { e with url := some url }

/-- The status code behind a failure. -/
def status? (e : Error) : Option Nat :=
  match e.cause with
  | .status code => some code
  | .notFound => some 404
  | _ => none

/-- The text of a failure: heading, URL and particulars. -/
def message (e : Error) : String :=
  e.cause.heading ++ (e.url.map fun u => " for url (" ++ u ++ ")").getD "" ++
    (e.cause.detail?.map fun d => ": " ++ d).getD ""

/-- A failure as a developer sees it. -/
def inspect (e : Error) : String :=
  Text.Inspect.record "clusterauth::Error" <|
    [("kind", e.cause.family)] ++
    (e.url.map fun u => ("url", Text.Inspect.quote u)).toList ++
    (e.cause.detail?.map fun d => ("source", Text.Inspect.quote d)).toList

end Error

/-- A computation that may fail. -/
abbrev Result := Except Error

/-- Fails with a fault of the configuration. -/
def misconfigured {α : Type} (fault : ConfigurationFault) : Result α :=
  .error ⟨.configuration fault, none⟩

/-- Fails with a fault of the negotiation. -/
def negotiationFails {α : Type} (fault : NegotiationFault) : Result α :=
  .error ⟨.negotiation fault, none⟩

end SignOn
