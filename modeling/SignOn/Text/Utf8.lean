/-!
# UTF-8

Encoding text as bytes, and reading bytes as text. A byte string is a sequence of characters and
of ill-formed parts; an ill-formed part is as long as the longest beginning of some character
found there, and at least one byte long. The strict reader refuses the first ill-formed part and
says where it is; the lenient reader puts the replacement character in the place of each.
-/

namespace SignOn.Text

/-- A string of bytes. -/
abbrev Bytes := List UInt8

namespace Utf8

/-- The bytes of a text. -/
def encode (s : String) : Bytes :=
  s.toList.flatMap String.utf8EncodeChar

/-- One part of a byte string. -/
inductive Piece where
  /-- A well-formed character. -/
  | char (c : Char)
  /-- Bytes that cannot begin a character. -/
  | invalid (length : Nat)
  /-- The beginning of a character that ends with the byte string. -/
  | incomplete (length : Nat)
deriving DecidableEq, Repr

/-- Whether a byte continues a character. -/
def isContinuation (b : UInt8) : Bool :=
  0x80 ≤ b && b ≤ 0xBF

/-- Whether `b` may follow the first byte `a` of a character of three bytes: no overlong forms
and no surrogates. -/
def isSecondOfThree (a b : UInt8) : Bool :=
  isContinuation b && (a != 0xE0 || 0xA0 ≤ b) && (a != 0xED || b ≤ 0x9F)

/-- Whether `b` may follow the first byte `a` of a character of four bytes: no overlong forms
and nothing above the last code point. -/
def isSecondOfFour (a b : UInt8) : Bool :=
  isContinuation b && (a != 0xF0 || 0x90 ≤ b) && (a != 0xF4 || b ≤ 0x8F)

/-- The low six bits that a continuation byte carries. -/
def payload (b : UInt8) : Nat :=
  b.toNat % 64

/-- The parts of a byte string, in order. -/
def piecesOf : Bytes → List Piece
  | [] => []
  | a :: rest =>
    if a < 0x80 then .char (Char.ofNat a.toNat) :: piecesOf rest
    else if 0xC2 ≤ a && a ≤ 0xDF then
      match rest with
      | [] => [.incomplete 1]
      | b :: rest₁ =>
        if isContinuation b then
          .char (Char.ofNat (a.toNat % 32 * 64 + payload b)) :: piecesOf rest₁
        else .invalid 1 :: piecesOf (b :: rest₁)
    else if 0xE0 ≤ a && a ≤ 0xEF then
      match rest with
      | [] => [.incomplete 1]
      | b :: rest₁ =>
        if isSecondOfThree a b then
          match rest₁ with
          | [] => [.incomplete 2]
          | c :: rest₂ =>
            if isContinuation c then
              .char (Char.ofNat (a.toNat % 16 * 4096 + payload b * 64 + payload c)) ::
                piecesOf rest₂
            else .invalid 2 :: piecesOf (c :: rest₂)
        else .invalid 1 :: piecesOf (b :: rest₁)
    else if 0xF0 ≤ a && a ≤ 0xF4 then
      match rest with
      | [] => [.incomplete 1]
      | b :: rest₁ =>
        if isSecondOfFour a b then
          match rest₁ with
          | [] => [.incomplete 2]
          | c :: rest₂ =>
            if isContinuation c then
              match rest₂ with
              | [] => [.incomplete 3]
              | d :: rest₃ =>
                if isContinuation d then
                  .char (Char.ofNat
                    (a.toNat % 8 * 262144 + payload b * 4096 + payload c * 64 + payload d)) ::
                    piecesOf rest₃
                else .invalid 3 :: piecesOf (d :: rest₃)
            else .invalid 2 :: piecesOf (c :: rest₂)
        else .invalid 1 :: piecesOf (b :: rest₁)
    else .invalid 1 :: piecesOf rest

/-- Why bytes are not text. -/
inductive Fault where
  /-- Bytes that cannot begin a character, from this index on. -/
  | invalid (length index : Nat)
  /-- The bytes end within the character that begins at this index. -/
  | incomplete (index : Nat)
deriving DecidableEq, Repr

/-- The wording of a fault. -/
def Fault.message : Fault → String
  | .invalid length index => s!"invalid utf-8 sequence of {length} bytes from index {index}"
  | .incomplete index => s!"incomplete utf-8 byte sequence from index {index}"

/-- The characters of the parts, or the first fault; the first part begins at `index`. -/
def textOf (index : Nat) : List Piece → Except Fault (List Char)
  | [] => .ok []
  | .char c :: ps =>
    match textOf (index + c.utf8Size) ps with
    | .ok cs => .ok (c :: cs)
    | .error e => .error e
  | .invalid n :: _ => .error (.invalid n index)
  | .incomplete _ :: _ => .error (.incomplete index)

/-- Reads bytes that must be well-formed. -/
def decode (bytes : Bytes) : Except Fault String :=
  (textOf 0 (piecesOf bytes)).map String.ofList

/-- Reads any bytes, with the replacement character for each ill-formed part. -/
def decodeLenient (bytes : Bytes) : String :=
  String.ofList ((piecesOf bytes).map fun
    | .char c => c
    | .invalid _ | .incomplete _ => '\uFFFD')

end Utf8

end SignOn.Text
