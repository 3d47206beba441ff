import SignOn.Text.Ranges

/-!
# White space

The characters with the Unicode property White_Space, and trimming by it.
-/

namespace SignOn.Text

/-- The code points with the Unicode property White_Space. -/
def blankRanges : Ranges :=
  [(0x9, 0xD), (0x20, 0x20), (0x85, 0x85), (0xA0, 0xA0), (0x1680, 0x1680), (0x2000, 0x200A),
   (0x2028, 0x2029), (0x202F, 0x202F), (0x205F, 0x205F), (0x3000, 0x3000)]

/-- Whether a character has the Unicode property White_Space. -/
def isBlank (c : Char) : Bool :=
  blankRanges.contains c

/-- Removes the elements satisfying `p` from both ends. -/
def stripBy {α : Type} (p : α → Bool) (xs : List α) : List α :=
  ((xs.dropWhile p).reverse.dropWhile p).reverse

/-- A text without the white space at its start. -/
def trimStart (s : String) : String :=
  String.ofList (s.toList.dropWhile isBlank)

/-- A text without the white space at its ends. -/
def trim (s : String) : String :=
  String.ofList (stripBy isBlank s.toList)

end SignOn.Text
