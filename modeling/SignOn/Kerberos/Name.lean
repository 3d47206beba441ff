import SignOn.Error

/-!
# Principal names

A principal name is a service, possibly with a host behind a slash and a realm behind an at sign:
`service/host@REALM`. A text without an at sign that is not of this form is the name of a service as
it stands; one with an at sign is refused.
-/

namespace SignOn

/-- The name of a principal. -/
structure PrincipalName where
  service : String
  host : Option String := none
  realm : Option String := none
deriving DecidableEq, Repr

namespace PrincipalName

/-- Whether a character separates the parts of a name. -/
def isSeparator (c : Char) : Bool :=
  c == '/' || c == '@'

/-- Takes a part off the front: at least one character, none of them a separator. -/
def takePart? (cs : List Char) : Option (String × List Char) :=
  let part := cs.takeWhile (!isSeparator ·)
  if part.isEmpty then none else some (String.ofList part, cs.dropWhile (!isSeparator ·))

/-- Reads the realm that must end a name, if there is one. -/
def readRealm? : List Char → Option (Option String)
  | [] => some none
  | '@' :: cs =>
    match takePart? cs with
    | some (realm, []) => some (some realm)
    | _ => none
  | _ :: _ => none

/-- Reads a text of the form of a name. -/
def readParts? (cs : List Char) : Option PrincipalName := do
  let (service, rest) ← takePart? cs
  match rest with
  | '/' :: rest =>
    let (host, rest) ← takePart? rest
    let realm ← readRealm? rest
    some { service, host := some host, realm }
  | rest =>
    let realm ← readRealm? rest
    some { service, realm }

/-- Reads a name. -/
def parse (name : String) : Result PrincipalName :=
  match readParts? name.toList with
  | some parts => .ok parts
  | none =>
    if name.toList.contains '@' then misconfigured (.malformedName name)
    else .ok { service := name }

/-- The text of a name. -/
def text (n : PrincipalName) : String :=
  n.service ++ (n.host.map ("/" ++ ·)).getD "" ++ (n.realm.map ("@" ++ ·)).getD ""

end PrincipalName

end SignOn
