import SignOn.Text.Utf8

/-!
# Base64

The standard alphabet with padding. Reading accepts canonical texts only: whole groups of four
characters, padding in the last group alone, and no stray bits under the padding. So each byte
string has exactly one text.
-/

namespace SignOn.Text.Base64

/-- The characters for the values 0 to 63. -/
def alphabet : List Char :=
  "ABCDEFGHIJKLMNOPQRSTUVWXYZabcdefghijklmnopqrstuvwxyz0123456789+/".toList

/-- The character for a value below 64. -/
def symbol (n : Nat) : Char :=
  alphabet.getD n 'A'

/-- The value of a character of the alphabet. -/
def value? (c : Char) : Option Nat :=
  alphabet.findIdx? (· == c)

/-- The characters that stand for bytes: four for each three, the last group padded. -/
def encodeChars : Bytes → List Char
  | [] => []
  | [a] =>
    let n := a.toNat
    [symbol (n / 4), symbol (n % 4 * 16), '=', '=']
  | [a, b] =>
    let n := a.toNat * 256 + b.toNat
    [symbol (n / 1024), symbol (n / 16 % 64), symbol (n % 16 * 4), '=']
  | a :: b :: c :: rest =>
    let n := a.toNat * 65536 + b.toNat * 256 + c.toNat
    symbol (n / 262144) :: symbol (n / 4096 % 64) :: symbol (n / 64 % 64) :: symbol (n % 64) ::
      encodeChars rest

/-- The text that stands for bytes. -/
def encode (bytes : Bytes) : String :=
  String.ofList (encodeChars bytes)

/-- The byte of a padded group of two values: the second carries two bits. -/
def oneByte? (a b : Char) : Option Bytes := do
  let x ← value? a
  let y ← value? b
  if y % 16 = 0 then some [UInt8.ofNat (x * 4 + y / 16)] else none

/-- The bytes of a padded group of three values: the third carries four bits. -/
def twoBytes? (a b c : Char) : Option Bytes := do
  let x ← value? a
  let y ← value? b
  let z ← value? c
  let n := x * 4096 + y * 64 + z
  if z % 4 = 0 then some [UInt8.ofNat (n / 1024), UInt8.ofNat (n / 4 % 256)] else none

/-- The bytes of a full group. -/
def threeBytes? (a b c d : Char) : Option Bytes := do
  let x ← value? a
  let y ← value? b
  let z ← value? c
  let w ← value? d
  let n := x * 262144 + y * 4096 + z * 64 + w
  some [UInt8.ofNat (n / 65536), UInt8.ofNat (n / 256 % 256), UInt8.ofNat (n % 256)]

/-- The bytes that characters stand for, if they are a canonical text. -/
def decodeChars? : List Char → Option Bytes
  | [] => some []
  | [a, b, c, d] =>
    if d = '=' then if c = '=' then oneByte? a b else twoBytes? a b c
    else threeBytes? a b c d
  | a :: b :: c :: d :: rest =>
    match threeBytes? a b c d, decodeChars? rest with
    | some front, some back => some (front ++ back)
    | _, _ => none
  | _ => none

/-- The bytes that a text stands for, if it is canonical. -/
def decode? (s : String) : Option Bytes :=
  decodeChars? s.toList

end SignOn.Text.Base64
