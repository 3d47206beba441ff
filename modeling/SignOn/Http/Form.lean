import SignOn.Http.Percent
import SignOn.Text.Split

/-!
# Form data

The encoding of pairs of texts as the query of a URL: pairs joined by ampersands, name and value
by an equals sign, blanks as plus signs and most other characters percent-encoded.
-/

namespace SignOn.Http.Form

open SignOn.Text (Bytes)

/-- Whether a byte stands for itself in encoded form data. -/
def isKept (b : UInt8) : Bool :=
  (0x30 ≤ b && b ≤ 0x39) || (0x41 ≤ b && b ≤ 0x5A) || (0x61 ≤ b && b ≤ 0x7A) ||
    b == 0x2A || b == 0x2D || b == 0x2E || b == 0x5F

/-- The characters for a byte. -/
def encodeByte (b : UInt8) : List Char :=
  if b = 0x20 then ['+']
  else if isKept b then [Char.ofNat b.toNat]
  else Percent.encodeByte b

/-- The characters for a text. -/
def encodeChars (s : String) : List Char :=
  (Text.Utf8.encode s).flatMap encodeByte

/-- An encoded pair. -/
def pair (name value : String) : String :=
  String.ofList (encodeChars name ++ '=' :: encodeChars value)

/-- The text that encoded bytes stand for; what is no text is replaced. -/
def decodeText (bytes : Bytes) : String :=
  Text.Utf8.decodeLenient (Percent.decode (bytes.map fun b => if b = 0x2B then 0x20 else b))

/-- The pair that a part of form data stands for; without an equals sign its value is empty. -/
def readPair (part : Bytes) : String × String :=
  match Text.cut? 0x3D part with
  | some (name, value) => (decodeText name, decodeText value)
  | none => (decodeText part, "")

/-- The pairs of form data, in order; empty parts do not count. -/
def pairs (data : String) : List (String × String) :=
  ((Text.pieces 0x26 (Text.Utf8.encode data)).filter (!·.isEmpty)).map readPair

end SignOn.Http.Form
