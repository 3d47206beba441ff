import SignOn.Http.Domain.Char
import SignOn.Http.Domain.PairTable

/-!
# Composed texts

A text of characters that may stand in domains is composed if the marks behind each letter are in
the order of their classes, and if no letter merges with what follows it. A mark merges with the
letter unless a mark of the same class stands between them, and a sign that is no mark merges only
with its neighbour.
-/

namespace SignOn.Http.Domain

/-- Whether two jamo make a syllable, or a syllable of two jamo takes a third one. -/
def mergesHangul (a b : Nat) : Bool :=
  (0x1100 ≤ a && a ≤ 0x1112 && 0x1161 ≤ b && b ≤ 0x1175) ||
    (0xAC00 ≤ a && a ≤ 0xD7A3 && (a - 0xAC00) % 28 == 0 && 0x11A8 ≤ b && b ≤ 0x11C2)

/-- Whether there is a single character for two characters. -/
def merges (a b : Char) : Bool :=
  mergesHangul a.toNat b.toNat ||
    mergingPairs.any fun (second, firsts) => second == b.toNat && firsts.contains a.toNat

/-- Whether the rest of a text is composed behind a letter and marks, of which the last one is of
the class `last`. -/
def isComposedBehind (letter : Option Char) (last : Nat) : List Char → Bool
  | [] => true
  | c :: rest =>
    let n := markClass c
    let inOrder := n = 0 || last ≤ n
    let free := last = 0 || last < n
    if !inOrder || (free && letter.any fun a => merges a c) then false
    else if n = 0 then isComposedBehind (some c) 0 rest
    else isComposedBehind letter n rest

/-- Whether a text is composed. -/
def isComposed (cs : List Char) : Bool :=
  isComposedBehind none 0 cs

end SignOn.Http.Domain
