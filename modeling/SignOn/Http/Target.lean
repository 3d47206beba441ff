import SignOn.Text.Split

/-!
# Targets of requests

What a request asks for: a path with an optional query, with the scheme and the authority in front
when the target is absolute, or an authority alone. The reader accepts the characters that may
stand in each part and leaves escapes as they are; a fragment is dropped.
-/

namespace SignOn.Http

/-- The target of a request. -/
structure Target where
  scheme : Option String := none
  authority : Option String := none
  /-- The path; empty only in front of an authority that stands alone. -/
  path : String
  query : Option String := none
deriving DecidableEq, Repr

namespace Target

/-- The greatest length of a target in bytes. -/
def maxLength : Nat := 65534

/-- The greatest length of a scheme. -/
def maxSchemeLength : Nat := 64

/-- The greatest number of colons in a row of characters between brackets or at signs. -/
def maxColons : Nat := 8

/-- Whether a character has an ASCII code in a range. -/
def within (c : Char) (first last : Nat) : Bool :=
  first ≤ c.toNat && c.toNat ≤ last

/-- Whether a character may stand in a path. -/
def isPathChar (c : Char) : Bool :=
  c == '!' || within c 0x24 0x3B || c == '=' || within c 0x40 0x5F || within c 0x61 0x7A ||
    c == '|' || c == '~' || 0x7F ≤ c.toNat || c == '"' || c == '\x7b' || c == '\x7d'

/-- Whether a character may stand in a query. -/
def isQueryChar (c : Char) : Bool :=
  c == '!' || within c 0x24 0x3B || c == '=' || 0x3F ≤ c.toNat

/-- Whether a character may stand in a scheme. -/
def isSchemeChar (c : Char) : Bool :=
  c.isAlphanum || "+-.~".toList.contains c

/-- Whether a character may stand in an authority; percent signs are looked at apart. -/
def isAuthorityChar (c : Char) : Bool :=
  c.isAlphanum || "!$&'()*+,-.:;=@[]_~".toList.contains c

/-- Whether a character ends an authority. -/
def endsAuthority (c : Char) : Bool :=
  c == '/' || c == '?' || c == '#'

/-- What has been seen of an authority. -/
structure Seen where
  /-- The colons since the last at sign or closing bracket. -/
  colons : Nat := 0
  opened : Bool := false
  closed : Bool := false
  /-- Whether there was a percent sign since the last at sign or closing bracket. -/
  percent : Bool := false
  /-- Whether the last character was an at sign. -/
  atSign : Bool := false

/-- Looks at one more character of an authority, which must be allowed there. -/
def Seen.next? (s : Seen) (c : Char) : Option Seen :=
  let t := { s with atSign := false }
  if c = ':' then if s.colons < maxColons then some { t with colons := s.colons + 1 } else none
  else if c = '[' then if s.percent || s.opened then none else some { t with opened := true }
  else if c = ']' then
    if !s.opened || s.closed then none
    else some { t with closed := true, colons := 0, percent := false }
  else if c = '@' then some { t with colons := 0, percent := false, atSign := true }
  else if c = '%' then some { t with percent := true }
  else if isAuthorityChar c then some t
  else none

/-- Whether an authority may end here: brackets are closed, at most one colon and no percent sign
stand behind the user, and something stands behind the last at sign. -/
def Seen.mayEnd (s : Seen) : Bool :=
  s.opened == s.closed && s.colons ≤ 1 && !s.percent && !s.atSign

/-- Whether characters are an authority. -/
def isAuthority (cs : List Char) : Bool :=
  match cs.foldlM Seen.next? {} with
  | some s => s.mayEnd
  | none => false

/-- What stands in front of and behind `://`, if nothing but characters of a scheme stands in
front. -/
def cutScheme? (cs : List Char) : Option (List Char × List Char) :=
  let (scheme, rest) := (cs.takeWhile isSchemeChar, cs.dropWhile isSchemeChar)
  match rest with
  | ':' :: '/' :: '/' :: rest => some (scheme, rest)
  | _ => none

/-- The spelling of a scheme: those of the web are in small letters. -/
def schemeName (scheme : List Char) : String :=
  let small := String.ofList (scheme.map Char.toLower)
  if small = "http" || small = "https" then small else String.ofList scheme

/-- Reads the path and the query in a text without a fragment. -/
def pathAndQuery? (cs : List Char) : Option (List Char × Option String) :=
  match Text.cut? '?' cs with
  | none => if cs.all isPathChar then some (cs, none) else none
  | some (path, query) =>
    if path.all isPathChar && query.all isQueryChar then some (path, some (String.ofList query))
    else none

/-- Reads what stands behind `://`. -/
def afterScheme? (scheme : List Char) (cs : List Char) : Option Target :=
  let authority := cs.takeWhile fun c => !endsAuthority c
  let rest := Text.before '#' (cs.dropWhile fun c => !endsAuthority c)
  if scheme.length > maxSchemeLength || authority.isEmpty || !isAuthority authority then none
  else
    (pathAndQuery? rest).map fun (path, query) =>
      { scheme := some (schemeName scheme), authority := some (String.ofList authority),
        path := if path.isEmpty then "/" else String.ofList path, query }

/-- Reads a target that is neither absolute nor a star. -/
def withoutScheme? (cs : List Char) : Option Target :=
  if cs.head? = some '/' then
    (pathAndQuery? (Text.before '#' cs)).map fun (path, query) =>
      { path := String.ofList path, query }
  else if !cs.isEmpty && !cs.any endsAuthority && isAuthority cs then
    some { authority := some (String.ofList cs), path := "" }
  else none

/-- Reads a target. -/
def parse? (s : String) : Option Target :=
  if maxLength < s.utf8ByteSize then none
  else if s = "*" then some { path := "*" }
  else
    match cutScheme? s.toList with
    | some (scheme, rest) => afterScheme? scheme rest
    | none => withoutScheme? s.toList

/-- Whether a target is under the scheme for encrypted connections. -/
def isSecure (t : Target) : Bool :=
  t.scheme == some "https"

/-- The text of a target. -/
def text (t : Target) : String :=
  (t.scheme.map fun s => s ++ "://").getD "" ++ t.authority.getD "" ++ t.path ++
    (t.query.map fun q => "?" ++ q).getD ""

end Target

end SignOn.Http
