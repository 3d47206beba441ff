import SignOn.Endpoint.Handler
import SignOn.Properties
import SignOn.Text.Base64
import SignOn.Text.Split

/-!
# Passwords checked by a directory

The handler for the scheme Basic: it asks a directory whether it accepts the user's password. The
directory knows the user as `uid=user,base` under a base entry, or as `user@domain` in a domain. The
password is a part of the question only; no outcome depends on it in any other way.
-/

namespace SignOn

/-- How the directory knows a user. -/
inductive Naming where
  /-- As an entry below a base entry. -/
  | base (entry : String)
  /-- By a name that carries a domain. -/
  | domain (suffix : String)
deriving DecidableEq, Repr

namespace Naming

/-- Whether a name carries a domain or a host already: behind its first character. -/
def hasDomain (user : String) : Bool :=
  match user.toList.findIdx? fun c => c == '/' || c == '@' with
  | some i => 0 < i
  | none => false

/-- The full name of a user, which is also that of the token. -/
def qualify (naming : Naming) (user : String) : String :=
  match naming with
  | .base _ => user
  | .domain suffix => if hasDomain user then user else user ++ "@" ++ suffix

/-- The name under which the directory knows the user of a full name. -/
def entryOf (naming : Naming) (name : String) : String :=
  match naming with
  | .base entry => "uid=" ++ name ++ "," ++ entry
  | .domain _ => name

end Naming

/-- Checks passwords by asking a directory. -/
structure DirectoryHandler where
  /-- The URL of the directory. -/
  url : String
  naming : Naming
  transport : BindTransport := .plain
  /-- Whether any host name of the directory is accepted when the connection is upgraded. -/
  anyHost : Bool := false
deriving DecidableEq, Repr

namespace DirectoryHandler

/-- The kind of the tokens. -/
def usualKind : String := "ldap"

/-- The key with the URL of the directory. -/
def urlKey : String := "ldap.providerurl"

/-- The key with the base entry below which users are. -/
def baseKey : String := "ldap.basedn"

/-- The key with the domain that completes the names of users. -/
def domainKey : String := "ldap.binddomain"

/-- The key that says whether plain connections are upgraded. -/
def startTlsKey : String := "ldap.enablestarttls"

/-- The key that says whether any host name is accepted when a connection is upgraded. -/
def anyHostKey : String := "ldap.disablehostnameverification"

/-- Upgrades plain connections; those that are encrypted from the start cannot be upgraded. -/
def startTls (h : DirectoryHandler) (anyHost : Bool) : Result DirectoryHandler :=
  if Text.beginsWithText "ldaps" h.url then misconfigured .doubleEncryption
  else .ok { h with transport := .startTls, anyHost }

/-- Reads how users are named, in exactly one of two ways. -/
def namingOf (props : Properties) : Result Naming :=
  match props.getTrimmed? baseKey, props.getTrimmed? domainKey with
  | some entry, none => .ok (.base entry)
  | none, some suffix => .ok (.domain suffix)
  | _, _ => misconfigured .ambiguousNaming

/-- Reads a handler from the configuration. -/
def ofProperties (props : Properties) : Result DirectoryHandler := do
  let url ← (props.require urlKey).mapError fun _ => ⟨.configuration .noDirectory, none⟩
  let naming ← namingOf props
  if ← props.getBool startTlsKey false then
    let anyHost ← props.getBool anyHostKey false
    startTls { url, naming } anyHost
  else .ok { url, naming }

/-- The user and the password in the credentials of the scheme. -/
def userAndPassword? (encoded : String) : Option (String × String) :=
  match (Text.Base64.decode? encoded).map Text.Utf8.decode with
  | some (.ok text) =>
    (Text.cut? ':' text.toList).map fun (user, password) =>
      (String.ofList user, String.ofList password)
  | _ => none

/-- Whether a password counts as blank: directories take an empty one, or one that begins with a
zero, for access without a user. -/
def isBlankPassword (password : String) : Bool :=
  password.isEmpty || password.toList.head? == some '\x00'

/-- A failure to validate a user. -/
def refuse {α : Type} (fault : DirectoryFault) : Result α :=
  .error ⟨.directory fault, none⟩

/-- The question whether the password of a user with this full name is right. -/
def bindRequest (h : DirectoryHandler) (name password : String) : BindRequest where
  url := h.url
  name := h.naming.entryOf name
  password := password
  transport := h.transport
  anyHost := h.anyHost

/-- Asks for the token of a user. -/
def authenticateUser (h : DirectoryHandler) (user password : String) : Attempt Outcome :=
  if user.isEmpty then .done (refuse .blankUser)
  else
    let name := h.naming.qualify user
    if isBlankPassword password then .done (refuse .blankPassword)
    else
      .bind (h.bindRequest name password) fun
        | .ok () => (Token.make name name usualKind).map .ofToken
        | .error _ => refuse (.refused (h.naming.entryOf name))

/-- What is found out about a request. Without credentials of the scheme that can be read, the
client is asked for them. -/
def authenticate (h : DirectoryHandler) (request : Http.Request) : Attempt Outcome :=
  match (credentials? request).bind fun text =>
      (Scheme.basic.behind? text).bind userAndPassword? with
  | some (user, password) => h.authenticateUser user password
  | none => .done (.ok (.challenge (.unauthorized .basic)))

/-- The handler that asks the directory. -/
def handler (h : DirectoryHandler) : Handler where
  kind := usualKind
  tokenKinds := [usualKind]
  authenticate := h.authenticate

/-- A handler as a developer sees it. -/
def inspect (h : DirectoryHandler) : String :=
  let entry := match h.naming with
    | .base entry => some entry
    | .domain _ => none
  let suffix := match h.naming with
    | .base _ => none
    | .domain suffix => some suffix
  Text.Inspect.record "DirectoryBindHandler" [
    ("provider_url", Text.Inspect.quote h.url),
    ("base_dn", Text.Inspect.option (entry.map Text.Inspect.quote)),
    ("bind_domain", Text.Inspect.option (suffix.map Text.Inspect.quote)),
    ("transport", h.transport.inspect)]

end DirectoryHandler

end SignOn
