import SignOn.Text.CaseTable

/-!
# Letter case

Comparison that ignores the case of ASCII letters, and the lower-case form of a text in all
scripts. A capital sigma becomes a final sigma at the end of a word: behind a letter with case and
not in front of one, characters such as apostrophes and marks left aside.
-/

namespace SignOn.Text

/-- A text with its ASCII capitals made small. -/
def lowerAscii (s : String) : String :=
  String.ofList (s.toList.map Char.toLower)

/-- Whether two texts are equal up to the case of ASCII letters. -/
def sameText (a b : String) : Bool :=
  lowerAscii a == lowerAscii b

/-- Whether `head` is the beginning of `s`, up to the case of ASCII letters. -/
def beginsWithText (head s : String) : Bool :=
  (head.toList.map Char.toLower).isPrefixOf (s.toList.map Char.toLower)

/-- The small letter of a character; other characters are their own. -/
def lowerChar (c : Char) : Char :=
  match capitalRuns.find? fun r => r.has c.toNat with
  | some r => Char.ofNat (r.target + (c.toNat - r.first))
  | none => c

/-- Whether, after characters that are ignored, the first one is a letter with case. -/
def meetsCased (cs : List Char) : Bool :=
  match cs.dropWhile caseIgnorableRanges.contains with
  | c :: _ => casedRanges.contains c
  | [] => false

/-- The lower-case form of one character between what stands before it, nearest first, and what
stands after it. -/
def lowerWithin (before : List Char) (c : Char) (after : List Char) : List Char :=
  if c = 'Σ' then [if meetsCased before && !meetsCased after then 'ς' else 'σ']
  else if c = 'İ' then ['i', '\u0307']
  else [lowerChar c]

/-- The lower-case form of characters that follow others, given nearest first. -/
def lowerAfter (before : List Char) : List Char → List Char
  | [] => []
  | c :: cs => lowerWithin before c cs ++ lowerAfter (c :: before) cs

/-- The lower-case form of a text. -/
def lowercase (s : String) : String :=
  String.ofList (lowerAfter [] s.toList)

end SignOn.Text
