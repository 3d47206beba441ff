import SignOn.Error
import SignOn.Http.Message
import SignOn.Text.Blank
import SignOn.Text.Case

/-!
# Authentication schemes

The schemes of HTTP that an endpoint can offer, and how the credentials of a request name their
scheme: at the start, in any letter case, with white space around.
-/

namespace SignOn

/-- An authentication scheme of HTTP. -/
inductive Scheme where
  | basic
  | negotiate
  | digest
deriving DecidableEq, Repr

namespace Scheme

/-- The usual spelling of a scheme. -/
def name : Scheme → String
  | .basic => "Basic"
  | .negotiate => "Negotiate"
  | .digest => "Digest"

/-- All schemes. -/
def all : List Scheme := [.basic, .negotiate, .digest]

/-- Reads the name of a scheme, in any letter case and with white space around. -/
def parse (text : String) : Result Scheme :=
  match all.find? fun s => Text.sameText s.name (Text.trim text) with
  | some s => .ok s
  | none => misconfigured (.unsupportedScheme text)

/-- Whether credentials begin with the name of a scheme. White space around either does not
count. -/
def isNamedIn (name credentials : String) : Bool :=
  Text.beginsWithText (Text.trim name) (Text.trim credentials)

/-- Whether credentials are for this scheme. -/
def matches? (s : Scheme) (credentials : String) : Bool :=
  isNamedIn s.name credentials

/-- What stands behind the name of the scheme in credentials for it. -/
def behind? (s : Scheme) (credentials : String) : Option String :=
  let text := Text.trimStart credentials
  if s.matches? text then
    some (Text.trim (String.ofList (text.toList.drop s.name.toList.length)))
  else none

end Scheme

/-- The credentials of a request: the text of its first field for them, if it can be read. -/
def credentials? (request : Http.Request) : Option String :=
  (request.headers.get? Http.authorizationField).bind Http.Headers.readable?

end SignOn
