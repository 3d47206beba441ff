import SignOn.Http.Url.Basic
import SignOn.Text.Blank

/-!
# Reading URLs

White space around a URL and line breaks within it do not count. The scheme decides how the rest
is read: URLs of the web have a host, files may have one, and other URLs have one behind two
slashes. The path of a file may begin with the letter of a drive. Segments of a path that mean this
or the upper directory are resolved, and characters that may not stand in their part are
percent-encoded. A text without a scheme is no URL.
-/

namespace SignOn.Http.Url

/-! ## Characters -/

/-- Whether a character is visible ASCII or a blank, and not in a list. -/
def isKept (encoded : String) (c : Char) : Bool :=
  0x20 ≤ c.toNat && c.toNat ≤ 0x7E && !encoded.toList.contains c

/-- Encodes the characters that may not stand in a fragment. -/
def encodeFragment (cs : List Char) : String :=
  String.ofList (Percent.encode (isKept " \"<>`") cs)

/-- Encodes the characters that may not stand in a segment of a path. -/
def encodeSegment (cs : List Char) : String :=
  String.ofList (Percent.encode (isKept " \"<>`#?\x7b\x7d") cs)

/-- Encodes the characters that may not stand in front of a host. -/
def encodeUser (cs : List Char) : String :=
  String.ofList (Percent.encode (isKept " \"<>`#?\x7b\x7d/:;=@[\\]^|") cs)

/-- Encodes the characters that may not stand in a query, in URLs of the web also apostrophes. -/
def encodeQuery (web : Bool) (cs : List Char) : String :=
  String.ofList (Percent.encode (isKept (if web then " \"#<>'" else " \"#<>")) cs)

/-- Encodes control characters. -/
def encodePlain (cs : List Char) : String :=
  String.ofList (Percent.encode (isKept "") cs)

/-- The characters of a text that count. -/
def significant (s : String) : List Char :=
  (Text.stripBy (· ≤ ' ') s.toList).filter fun c => c != '\t' && c != '\n' && c != '\r'

/-! ## Parts -/

/-- Reads the scheme: a letter and what may follow it, in front of a colon. -/
def cutScheme? (cs : List Char) : Option (String × List Char) :=
  let name := cs.takeWhile fun c => c.isAlphanum || c == '+' || c == '-' || c == '.'
  match name, cs.drop name.length with
  | first :: _, ':' :: rest =>
    if first.isAlpha then some (String.ofList (name.map Char.toLower), rest) else none
  | _, _ => none

/-- The query and the fragment behind a path. -/
def queryAndFragment (web : Bool) (cs : List Char) : Option String × Option String :=
  let (front, fragment) := match Text.cut? '#' cs with
    | some (front, fragment) => (front, some (encodeFragment fragment))
    | none => (cs, none)
  match front with
  | '?' :: query => (some (encodeQuery web query), fragment)
  | _ => (none, fragment)

/-- Whether a character ends a path. -/
def endsPath (c : Char) : Bool :=
  c == '?' || c == '#'

/-- Whether a segment of a path means the directory itself. -/
def isHere (segment : String) : Bool :=
  [".", "%2e"].contains (Text.lowerAscii segment)

/-- Whether a segment of a path means the upper directory. -/
def isUp (segment : String) : Bool :=
  ["..", ".%2e", "%2e.", "%2e%2e"].contains (Text.lowerAscii segment)

/-- Whether a text begins with the letter of a drive: a letter, a colon or a bar, and then nothing
more or the end of a segment. -/
def beginsWithDrive (cs : List Char) : Bool :=
  match cs with
  | letter :: mark :: rest =>
    letter.isAlpha && (mark == ':' || mark == '|') &&
      (match rest with
        | [] => true
        | c :: _ => c == '/' || c == '\\' || endsPath c)
  | _ => false

/-- Whether a text is the letter of a drive. -/
def isDrive (cs : List Char) : Bool :=
  cs.length == 2 && beginsWithDrive cs

/-- The letter of a drive as it is written in paths. -/
def driveText (segment : String) : String :=
  String.ofList (segment.toList.take 1 ++ [':'])

/-- The directory above the last of some segments, which are given in reverse. Nothing is above the
letter of a drive. -/
def above : List String → List String
  | [] => []
  | last :: rest => if beginsWithDrive last.toList then last :: rest else rest

/-- Resolves the segments of a path behind others, which are given in reverse. A path that ends in
a directory ends in an empty segment. Where the first segment may be the letter of a drive
(`drives`), it is written with a colon. -/
def resolve (drives : Bool) (done : List String) : List String → List String
  | [] => done.reverse
  | segment :: rest =>
    if isUp segment then
      if rest.isEmpty then ("" :: above done).reverse else resolve drives (above done) rest
    else if isHere segment then
      if rest.isEmpty then ("" :: done).reverse else resolve drives done rest
    else
      let segment :=
        if drives && done.isEmpty && isDrive segment.toList then driveText segment else segment
      resolve drives (segment :: done) rest

/-- A text with slashes in place of backslashes. -/
def withSlashes (cs : List Char) : List Char :=
  cs.map fun c => if c = '\\' then '/' else c

/-- A text without a slash at its start. -/
def dropSlash : List Char → List Char
  | '/' :: rest => rest
  | cs => cs

/-- Reads the segments of a path behind the slash at its start. -/
def readSegments (drives : Bool) (cs : List Char) : List String :=
  resolve drives [] ((Text.pieces '/' cs).map encodeSegment)

/-- The user and the password in front of a host. -/
def readUser (cs : List Char) : String × String :=
  match Text.cut? ':' cs with
  | some (user, password) => (encodeUser user, encodeUser password)
  | none => (encodeUser cs, "")

/-- Whether a character ends the host and what stands around it. -/
def endsAuthority (web : Bool) (c : Char) : Bool :=
  c == '/' || endsPath c || (web && c == '\\')

/-- Reads the user and the password in front of the last at sign before the path; answers what
follows. Something must follow an at sign that stands first. -/
def readCredentials (web : Bool) (cs : List Char) :
    Except UrlFault ((String × String) × List Char) :=
  match Text.cutLast? ['@'] (cs.takeWhile fun c => !endsAuthority web c) with
  | none => .ok (("", ""), cs)
  | some (credentials, _) =>
    let rest := cs.drop (credentials.length + 1)
    if credentials.isEmpty && rest.head?.any (endsAuthority web) then .error .emptyHost
    else .ok (readUser credentials, rest)

/-- What stands before and after the end of a host; colons between brackets do not end it. -/
def cutHost (web inside : Bool) : List Char → List Char × List Char
  | [] => ([], [])
  | c :: rest =>
    if (c == ':' && !inside) || endsAuthority web c then ([], c :: rest)
    else
      let inside := if c = '[' then true else if c = ']' then false else inside
      let (host, rest) := cutHost web inside rest
      (c :: host, rest)

/-- Reads a port behind its colon, if there is one; the usual one of the scheme is left out. -/
def readPort (scheme : String) (cs : List Char) : Except UrlFault (Option Nat × List Char) :=
  match cs with
  | ':' :: rest =>
    let digits := rest.takeWhile Char.isDigit
    let rest := rest.drop digits.length
    let n := (Text.Decimal.natural? digits).getD 0
    if 65535 < n || rest.head?.any (!endsAuthority true ·) then .error .invalidPort
    else if digits.isEmpty || usualPort? scheme == some n then .ok (none, rest)
    else .ok (some n, rest)
  | _ => .ok (none, cs)

/-! ## Kinds of URLs -/

/-- Reads what stands behind the two slashes in front of a host. -/
def readAuthority (scheme : String) (cs : List Char) : Except UrlFault Url := do
  let web := isWebScheme scheme
  let ((user, password), rest) ← readCredentials web cs
  let (hostChars, rest) := cutHost web false rest
  if web && hostChars.isEmpty then .error .emptyHost
  let host ← if web then Host.ofWeb hostChars else Host.ofOther hostChars
  if hostChars.isEmpty && rest.head? == some ':' then .error .emptyHost
  let (port, rest) ← readPort scheme rest
  if hostChars.isEmpty && !(user.isEmpty && password.isEmpty) then .error .emptyHost
  let path := rest.takeWhile fun c => !endsPath c
  let (query, fragment) := queryAndFragment web (rest.dropWhile fun c => !endsPath c)
  let segments :=
    if web then readSegments false (dropSlash (withSlashes path))
    else if path.isEmpty then []
    else readSegments false (dropSlash path)
  .ok { scheme, user, password, host := some host, port, path := .segments segments, query,
        fragment }

/-- A path without the empty segments at its start. -/
def dropEmpty : List String → List String
  | "" :: second :: rest => dropEmpty (second :: rest)
  | segments => segments

/-- The host of a file and the path behind it. The letter of a drive is no host but belongs to the
path. Behind a host the path begins with a slash. -/
def cutFileHost (path : List Char) : List Char × List Char :=
  match path with
  | '/' :: '/' :: rest =>
    let host := rest.takeWhile (· != '/')
    if isDrive host then ([], rest) else (host, rest.drop host.length)
  | path => ([], dropSlash path)

/-- Reads what stands behind the scheme of a file. The local host is left out, and so is a host in
front of the letter of a drive. -/
def readFile (cs : List Char) : Except UrlFault Url := do
  let path := withSlashes (cs.takeWhile fun c => !endsPath c)
  let (query, fragment) := queryAndFragment true (cs.dropWhile fun c => !endsPath c)
  let (hostChars, path) := cutFileHost path
  let host ← if hostChars.isEmpty then .ok none else (Host.ofWeb hostChars).map some
  let host := if host = some (.name "localhost") then none else host
  let segments := readSegments true (if host.isSome then dropSlash path else path)
  let host := if segments.head?.any fun s => isDrive s.toList then none else host
  .ok { scheme := "file", host, path := .segments (dropEmpty segments), query, fragment }

/-- Reads what stands behind any other scheme and no two slashes. -/
def readOther (scheme : String) (cs : List Char) : Url :=
  let path := cs.takeWhile fun c => !endsPath c
  let (query, fragment) := queryAndFragment false (cs.dropWhile fun c => !endsPath c)
  let path := match path with
    | '/' :: path => UrlPath.segments (readSegments false path)
    | _ => .plain (encodePlain path)
  { scheme, path, query, fragment }

/-- Reads a URL. -/
def parse (s : String) : Except UrlFault Url :=
  match cutScheme? (significant s) with
  | none => .error .relativeWithoutBase
  | some (scheme, rest) =>
    if scheme = "file" then readFile rest
    else if isWebScheme scheme then
      readAuthority scheme (rest.dropWhile fun c => c == '/' || c == '\\')
    else
      match rest with
      | '/' :: '/' :: rest => readAuthority scheme rest
      | _ => .ok (readOther scheme rest)

end SignOn.Http.Url
