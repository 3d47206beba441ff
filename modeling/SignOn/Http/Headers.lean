import SignOn.Text.Utf8

/-!
# Header fields

The header fields of a request or an answer in their order, with names in small letters. A value
is a string of bytes; it can be read as text if all of its bytes are visible ASCII, blanks or tabs.
-/

namespace SignOn.Http

open SignOn.Text (Bytes)

/-- The header fields of a message. -/
structure Headers where
  entries : List (String × Bytes) := []
deriving DecidableEq, Repr

namespace Headers

/-- Adds a field behind all others. -/
def append (h : Headers) (name : String) (value : Bytes) : Headers :=
  ⟨h.entries ++ [(name, value)]⟩

/-- Adds the fields of `more` behind all others. -/
def extend (h more : Headers) : Headers :=
  ⟨h.entries ++ more.entries⟩

/-- The values of the fields with a name, in order. -/
def getAll (h : Headers) (name : String) : List Bytes :=
  h.entries.filterMap fun (k, v) => if k = name then some v else none

/-- The value of the first field with a name. -/
def get? (h : Headers) (name : String) : Option Bytes :=
  (h.getAll name).head?

/-- Whether there is a field with a name. -/
def has (h : Headers) (name : String) : Bool :=
  h.entries.any fun (k, _) => k == name

/-- Whether a byte of a value can be read as text. -/
def isReadable (b : UInt8) : Bool :=
  (0x20 ≤ b && b ≤ 0x7E) || b == 0x09

/-- The text of a value, if all of its bytes can be read. -/
def readable? (value : Bytes) : Option String :=
  if value.all isReadable then some (String.ofList (value.map fun b => Char.ofNat b.toNat))
  else none

/-- The readable values of the fields with a name. -/
def texts (h : Headers) (name : String) : List String :=
  (h.getAll name).filterMap readable?

/-- Whether a byte may stand in a value: anything but control characters other than tabs. -/
def isAllowed (b : UInt8) : Bool :=
  (0x20 ≤ b && b != 0x7F) || b == 0x09

/-- The value for a text, if it may stand in a header field. -/
def value? (text : String) : Option Bytes :=
  let bytes := Text.Utf8.encode text
  if bytes.all isAllowed then some bytes else none

/-- The header fields with the given texts as values. -/
def ofTexts (fields : List (String × String)) : Headers :=
  ⟨fields.map fun (name, text) => (name, Text.Utf8.encode text)⟩

end Headers

/-! ## Names of fields -/

/-- The field with the credentials of a client. -/
def authorizationField : String := "authorization"

/-- The field with a challenge, or with a token of an exchange. -/
def challengeField : String := "www-authenticate"

/-- The field with which a client sends cookies. -/
def cookieField : String := "cookie"

/-- The field with which a server sets a cookie. -/
def setCookieField : String := "set-cookie"

end SignOn.Http
