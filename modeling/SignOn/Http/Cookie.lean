import SignOn.Http.Date
import SignOn.Http.Headers
import SignOn.Text.Blank
import SignOn.Text.Case
import SignOn.Text.Split

/-!
# Cookies

A server sets a cookie as a name and a value followed by attributes; a client sends back the name
and the value alone. Names and values are neither quoted nor escaped, so a semicolon always ends
them.
-/

namespace SignOn.Http

/-- A cookie with the attributes that a server gives it. -/
structure Cookie where
  name : String
  value : String
  httpOnly : Bool := false
  secure : Bool := false
  path : Option String := none
  domain : Option String := none
  /-- The seconds for which the cookie lives. -/
  maxAge : Option Int64 := none
  /-- The end of the cookie, in seconds since the start of 1970. -/
  expires : Option Int := none
deriving DecidableEq, Repr

namespace Cookie

/-! ## Writing -/

/-- A text without one dot at its start. -/
def dropDot (s : String) : String :=
  match s.toList with
  | '.' :: rest => String.ofList rest
  | _ => s

/-- The attributes of a cookie, in the order in which they are written. -/
def attributes (c : Cookie) : List String :=
  (if c.httpOnly then ["HttpOnly"] else []) ++
    (if c.secure then ["Secure"] else []) ++
    (c.path.map fun p => "Path=" ++ p).toList ++
    (c.domain.map fun d => "Domain=" ++ dropDot d).toList ++
    (c.maxAge.map fun n => "Max-Age=" ++ Text.Decimal.print n).toList ++
    ((c.expires.bind Date.text?).map fun t => "Expires=" ++ t).toList

/-- The name and the value as a client sends them. -/
def pairText (c : Cookie) : String :=
  c.name ++ "=" ++ c.value

/-- The text with which a server sets a cookie. -/
def text (c : Cookie) : String :=
  "; ".intercalate (c.pairText :: c.attributes)

/-! ## Reading -/

/-- Characters as a text without the white space at its ends. -/
def trimmed (cs : List Char) : String :=
  String.ofList (Text.stripBy Text.isBlank cs)

/-- Reads a name and a value between which the first equals sign stands. -/
def ofPair? (cs : List Char) : Option Cookie :=
  match Text.cut? '=' cs with
  | some (name, value) =>
    if trimmed name = "" then none else some { name := trimmed name, value := trimmed value }
  | none => none

/-- Reads the lifetime of a cookie: digits, of which too many mean the longest time, and none at
all too; with a minus sign in front the time is over. -/
def lifetime? (s : String) : Option Int64 :=
  let (negative, digits) := match s.toList with
    | '-' :: rest => (true, rest)
    | cs => (false, cs)
  if digits.all Char.isDigit then
    some (if negative then 0
      else
        match Text.Decimal.natural? digits with
        | some n => if n ≤ 9223372036854775807 then Int64.ofNat n else Int64.maxValue
        | none => Int64.maxValue)
  else none

/-- The cookie with one more attribute. Attributes that are unknown or cannot be read do not
matter. -/
def withAttribute (c : Cookie) (cs : List Char) : Cookie :=
  let (key, value) := match Text.cut? '=' cs with
    | some (key, value) => (trimmed key, some (trimmed value))
    | none => (trimmed cs, none)
  match Text.lowerAscii key, value with
  | "secure", _ => { c with secure := true }
  | "httponly", _ => { c with httpOnly := true }
  | "max-age", some v => { c with maxAge := (lifetime? v).orElse fun _ => c.maxAge }
  | "domain", some v => if v = "" then c else { c with domain := some v }
  | "path", some v => { c with path := some v }
  | "expires", some v => { c with expires := (Date.parse? v).orElse fun _ => c.expires }
  | _, _ => c

/-- Reads the text with which a server sets a cookie. -/
def parse? (s : String) : Option Cookie :=
  match Text.pieces ';' s.toList with
  | pair :: attributes => (ofPair? pair).map fun c => attributes.foldl withAttribute c
  | [] => none

/-- The cookies that a client sends in one header field, as far as they can be read. -/
def sent (s : String) : List Cookie :=
  (Text.pieces ';' s.toList).filterMap ofPair?

/-- The value of the first cookie with a name that a client sends. -/
def value? (headers : Headers) (name : String) : Option String :=
  (((headers.texts cookieField).flatMap sent).find? fun c => c.name == name).map Cookie.value

end Cookie

end SignOn.Http
