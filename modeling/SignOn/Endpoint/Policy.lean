import SignOn.Duration
import SignOn.Http.Cookie
import SignOn.Properties
import SignOn.Session.Token

/-!
# Session policies

How long the sessions of an endpoint last and how their cookies are written. A cookie holds the
signed token in double quotes; one that persists tells the client when the session ends.
-/

namespace SignOn

/-- The settings of sessions and their cookies. -/
structure SessionPolicy where
  /-- How long a session lasts. -/
  validity : Duration := .ofSeconds 36000
  /-- How long a session may go unused, if that matters. -/
  maxInactive : Option Duration := none
  domain : Option String := none
  path : Option String := none
  /-- Whether clients may keep the cookie beyond their own session. -/
  persistent : Bool := false
deriving DecidableEq, Repr

namespace SessionPolicy

/-- The key with the seconds for which a session lasts. -/
def validityKey : String := "token.validity"

/-- The key with the seconds for which a session may go unused. -/
def maxInactiveKey : String := "token.max-inactive-interval"

/-- The key with the domain of the cookie. -/
def domainKey : String := "cookie.domain"

/-- The key with the path of the cookie. -/
def pathKey : String := "cookie.path"

/-- The key that says whether clients may keep the cookie. -/
def persistentKey : String := "cookie.persistent"

/-- The usual number of seconds of a session. -/
def usualSeconds : Int64 := 36000

/-- A length of time of so many seconds, which are not negative. -/
def seconds (n : Int64) : Duration :=
  .ofSeconds n.toInt.toNat

/-- Reads a policy from the configuration. -/
def ofProperties (props : Properties) : Result SessionPolicy := do
  let validity ← props.getInt64 validityKey usualSeconds
  if validity ≤ 0 then misconfigured (.badValidity validityKey validity)
  let maxInactive ← props.getInt64 maxInactiveKey (-1)
  let persistent ← props.getBool persistentKey false
  .ok {
    validity := seconds validity
    maxInactive := if 0 < maxInactive then some (seconds maxInactive) else none
    domain := props.getTrimmed? domainKey
    path := props.getTrimmed? pathKey
    persistent }

/-- The name of the session cookie. -/
def cookieName : String := "auth"

/-- The deadline for a session that begins now. -/
def expiry (p : SessionPolicy) (now : Int64) : Int64 :=
  now + p.validity.wrappedMillis

/-- The token with a new deadline for inactivity, if inactivity matters. -/
def refresh (p : SessionPolicy) (token : Token) (now : Int64) : Token :=
  match p.maxInactive with
  | some length => token.setMaxInactive (now + length.wrappedMillis)
  | none => token

/-- The whole seconds from now to a deadline, none if it has passed. -/
def secondsLeft (deadline now : Int64) : Int64 :=
  let left := deadline - now
  (if left < 0 then 0 else left) / 1000

/-- The cookie with a signed token. -/
def cookie (p : SessionPolicy) (signed : String) (deadline : Int64) (secure : Bool)
    (now : Int64) : Http.Cookie :=
  let timed := p.persistent && 0 ≤ deadline
  { name := cookieName
    value := "\"" ++ signed ++ "\""
    httpOnly := true
    secure
    domain := p.domain
    path := p.path
    maxAge := if timed then some (secondsLeft deadline now) else none
    expires := if timed then some (deadline / 1000).toInt else none }

/-- The cookie that takes the place of a session cookie and is gone at once. -/
def clearing (p : SessionPolicy) (secure : Bool) : Http.Cookie where
  name := cookieName
  value := ""
  httpOnly := true
  secure := secure
  domain := p.domain
  path := p.path
  maxAge := some 0

/-- A policy as a developer sees it. -/
def inspect (p : SessionPolicy) : String :=
  Text.Inspect.record "FilterConfig" [
    ("validity", p.validity.inspect),
    ("max_inactive", Text.Inspect.option (p.maxInactive.map Duration.inspect)),
    ("cookie_domain", Text.Inspect.option (p.domain.map Text.Inspect.quote)),
    ("cookie_path", Text.Inspect.option (p.path.map Text.Inspect.quote)),
    ("cookie_persistent", Text.Inspect.bool p.persistent)]

end SessionPolicy

end SignOn
