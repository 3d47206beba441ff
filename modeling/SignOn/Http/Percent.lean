import SignOn.Text.Utf8

/-!
# Percent-encoding

A byte as a percent sign and two hexadecimal digits. Which characters stand for themselves depends
on the part of a URL; characters beyond ASCII are always written byte by byte.
-/

namespace SignOn.Http.Percent

open SignOn.Text (Bytes)

/-- A hexadecimal digit in capitals, for a value below 16. -/
def digit (n : Nat) : Char :=
  if n < 10 then Char.ofNat (48 + n) else Char.ofNat (55 + n)

/-- The value of a hexadecimal digit. -/
def digit? (c : Char) : Option Nat :=
  if '0' ≤ c ∧ c ≤ '9' then some (c.toNat - 48)
  else if 'A' ≤ c ∧ c ≤ 'F' then some (c.toNat - 55)
  else if 'a' ≤ c ∧ c ≤ 'f' then some (c.toNat - 87)
  else none

/-- A byte as a percent sign and two digits. -/
def encodeByte (b : UInt8) : List Char :=
  ['%', digit (b.toNat / 16), digit (b.toNat % 16)]

/-- A character, encoded unless it is one of those that are kept. -/
def encodeChar (keep : Char → Bool) (c : Char) : List Char :=
  if keep c then [c] else (String.utf8EncodeChar c).flatMap encodeByte

/-- Characters, encoded unless they are of those that are kept. -/
def encode (keep : Char → Bool) (cs : List Char) : List Char :=
  cs.flatMap (encodeChar keep)

/-- The byte that two digits stand for. -/
def byte? (high low : UInt8) : Option UInt8 := do
  let x ← digit? (Char.ofNat high.toNat)
  let y ← digit? (Char.ofNat low.toNat)
  some (UInt8.ofNat (x * 16 + y))

/-- The bytes that percent-encoded bytes stand for. A percent sign without two digits stands for
itself. -/
def decode : Bytes → Bytes
  | 0x25 :: a :: b :: rest =>
    match byte? a b with
    | some x => x :: decode rest
    | none => 0x25 :: decode (a :: b :: rest)
  | x :: rest => x :: decode rest
  | [] => []

end SignOn.Http.Percent
