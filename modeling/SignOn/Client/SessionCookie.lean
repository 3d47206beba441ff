import SignOn.Endpoint.Policy
import SignOn.Text.Quoted

/-!
# The client's session cookie

A client keeps the value of the session cookie in double quotes and sends it back as it is. A
cookie with a lifetime is kept for nine tenths of it, so that it is never presented right at its
end; one with a lifetime of no whole second after that is not kept at all.
-/

namespace SignOn

open SignOn.Http (Cookie Headers)

/-- A cookie that a client keeps. -/
structure HeldCookie where
  /-- The value, in double quotes. -/
  text : String
  /-- The seconds for which the cookie is kept, if there is an end. -/
  lifetime : Option Int := none
deriving DecidableEq, Repr

/-- The moment at which a cookie that is received at another moment is dropped, if there is an end.
Both are seconds of a clock; an end that this clock does not reach, since it counts up to `last`,
is none. -/
def HeldCookie.end? (h : HeldCookie) (received last : Int) : Option Int :=
  (h.lifetime.map fun seconds => received + seconds).filter fun moment => moment ≤ last

/-- The session cookie of a client, if it has one. -/
structure SessionCookie where
  held : Option HeldCookie := none
deriving DecidableEq, Repr

namespace SessionCookie

/-- Whether there is a cookie. -/
def isSet (c : SessionCookie) : Bool :=
  c.held.isSome

/-- The value of the cookie without the double quotes around it. -/
def value? (c : SessionCookie) : Option String :=
  c.held.map fun h => Text.unquote h.text

/-- The field with which a client sends the cookie, if its value may stand there. -/
def field? (c : SessionCookie) : Option Text.Bytes :=
  c.held.bind fun h => Headers.value? (SessionPolicy.cookieName ++ "=" ++ h.text)

/-- A value in double quotes, unless it begins with one. -/
def quoted (value : String) : String :=
  if value.toList.head? = some '"' then value else "\"" ++ value ++ "\""

/-- A number of seconds brought into the range of 64-bit integers. -/
def bounded (n : Int) : Int :=
  max (-9223372036854775808) (min n 9223372036854775807)

/-- The seconds for which a cookie with a lifetime is kept: nine tenths of it. -/
def keptSeconds (lifetime : Int) : Int :=
  (bounded (9 * lifetime)).tdiv 10

/-- The session cookie after a value with a lifetime is received. A blank value and a lifetime that
is over take the cookie away. -/
def ofValue (value : String) (lifetime : Option Int) : SessionCookie :=
  if Text.unquote value = "" then {}
  else
    match lifetime with
    | some seconds =>
      if keptSeconds seconds ≤ 0 then {}
      else { held := some { text := quoted value, lifetime := some (keptSeconds seconds) } }
    | none => { held := some { text := quoted value } }

/-- The session cookie with a given value, if there is one, and no end. -/
def ofValue? (value : Option String) : SessionCookie :=
  match value with
  | some v => ofValue v none
  | none => {}

/-- The seconds for which a cookie lives from now, a moment in epoch milliseconds. Its lifetime
counts before its end. -/
def lifetimeOf (cookie : Cookie) (now : Int) : Option Int :=
  match cookie.maxAge with
  | some seconds => some seconds.toInt
  | none => cookie.expires.map fun e => (e * 1000 - now).tdiv 1000

/-- The session cookie that a field of an answer sets, if it sets one. -/
def received? (now : Int) (field : Text.Bytes) : Option SessionCookie := do
  let cookie ← (Headers.readable? field).bind Cookie.parse?
  if Text.sameText cookie.name SessionPolicy.cookieName then
    some (ofValue cookie.value (lifetimeOf cookie now))
  else none

/-- The session cookie after an answer: the last one that the answer sets, or the one from
before. -/
def afterAnswer (c : SessionCookie) (now : Int) (headers : Headers) : SessionCookie :=
  (headers.getAll Http.setCookieField).foldl (fun c field => (received? now field).getD c) c

end SessionCookie

end SignOn
