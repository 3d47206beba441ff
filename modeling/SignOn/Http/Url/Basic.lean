import SignOn.Http.Form
import SignOn.Http.Url.Host

/-!
# URLs

An absolute URL in its parts, each written as it stands in the text. `Url.text` puts the parts
together, and `Url.withPair` adds a pair of form data to the query.
-/

namespace SignOn.Http

/-- The path of a URL. -/
inductive UrlPath where
  /-- Segments, each behind a slash. -/
  | segments (list : List String)
  /-- A text without structure, as in an address of mail. -/
  | plain (text : String)
deriving DecidableEq, Repr

/-- An absolute URL. -/
structure Url where
  scheme : String
  user : String := ""
  password : String := ""
  /-- The host, or `none` if the URL has no authority. -/
  host : Option Host := none
  /-- The port, if it is not the usual one of the scheme. -/
  port : Option Nat := none
  path : UrlPath
  query : Option String := none
  fragment : Option String := none
deriving DecidableEq, Repr

namespace Url

/-- Whether a scheme is one of the web: a host is required, and backslashes count as slashes. -/
def isWebScheme (scheme : String) : Bool :=
  ["http", "https", "ws", "wss", "ftp"].contains scheme

/-- The usual port of a scheme. -/
def usualPort? (scheme : String) : Option Nat :=
  [("http", 80), ("https", 443), ("ws", 80), ("wss", 443), ("ftp", 21)].lookup scheme

/-- The user and the password in front of a host. -/
def userText (u : Url) : String :=
  if u.user.isEmpty && u.password.isEmpty then ""
  else u.user ++ (if u.password.isEmpty then "" else ":" ++ u.password) ++ "@"

/-- The host of a URL with everything around it. A path that begins with two slashes is kept apart
from the scheme when there is no host. -/
def authorityText (u : Url) : String :=
  match u.host with
  | some host =>
    "//" ++ u.userText ++ host.text ++ (u.port.map fun n => ":" ++ toString n).getD ""
  | none =>
    if u.scheme = "file" then "//"
    else
      match u.path with
      | .segments ("" :: _ :: _) => "/."
      | _ => ""

/-- The text of a path. -/
def pathText : UrlPath → String
  | .segments list => String.join (list.map fun s => "/" ++ s)
  | .plain text => text

/-- The text of a URL. -/
def text (u : Url) : String :=
  u.scheme ++ ":" ++ u.authorityText ++ pathText u.path ++
    (u.query.map fun q => "?" ++ q).getD "" ++ (u.fragment.map fun f => "#" ++ f).getD ""

/-- The text of the host, if there is one that is not empty. -/
def hostText? (u : Url) : Option String :=
  u.host.map Host.text

/-- The URL with one more pair of form data at the end of its query. -/
def withPair (u : Url) (name value : String) : Url :=
  let pair := Form.pair name value
  { u with query := some (match u.query with
      | some query => if query.isEmpty then pair else query ++ "&" ++ pair
      | none => pair) }

end Url

end SignOn.Http
