import SignOn.Http.Domain.Composed
import SignOn.Http.Domain.Punycode

/-!
# Labels of domains

A domain consists of labels between dots. A label that begins with `xn--` stands for characters
beyond ASCII, which must be allowed, composed and fit to stand side by side. Once a character of the
domain is written from right to left, all labels must be of one direction each.
-/

namespace SignOn.Http.Domain

/-! ## Joiners -/

/-- The character between two letters that do not join although they could. -/
def nonJoiner : Char := '\u200c'

/-- The character between two letters that join. -/
def joiner : Char := '\u200d'

/-- Whether a joiner is in its place: behind a mark that takes the vowel off a letter, or, if it
keeps letters apart, between letters that would join. What stands in front is given in reverse. -/
def joinerFits (c : Char) (front rest : List Char) : Bool :=
  front.head?.any (markClass · == vowelKiller) ||
    (c == nonJoiner && (front.find? (!isTransparent ·)).any joinsBehind &&
      (rest.find? (!isTransparent ·)).any joinsFront)

/-- Whether all joiners behind what is given in reverse are in their places. -/
def joinersFit (front : List Char) : List Char → Bool
  | [] => true
  | c :: rest =>
    ((c != nonJoiner && c != joiner) || joinerFits c front rest) && joinersFit (c :: front) rest

/-! ## Directions -/

/-- Whether a label contains a character that is written from right to left. -/
def goesRight (label : List Char) : Bool :=
  label.any fun c => direction c == .right || direction c == .arabicNumber

/-- The direction of the last character that is not attached to one in front. -/
def lastDirection? (directions : List Direction) : Option Direction :=
  directions.reverse.find? (· != .attached)

/-- Whether the characters of a label are of one direction, which the first one shows. -/
def hasDirection (label : List Char) : Bool :=
  let ds := label.map direction
  match ds.head? with
  | none => true
  | some .left =>
    ds.all (fun d => d != .right && d != .arabicNumber) &&
      (lastDirection? ds).any [.left, .europeanNumber].contains
  | some .right =>
    ds.all (· != .left) && !(ds.contains .europeanNumber && ds.contains .arabicNumber) &&
      (lastDirection? ds).any [.right, .europeanNumber, .arabicNumber].contains
  | _ => false

/-! ## Labels -/

/-- The greatest length of what stands behind the `xn--` of a label. -/
def maxEncoded : Nat := 2000

/-- The greatest number of characters of a label. -/
def maxLabel : Nat := 1000

/-- Whether characters may make up a label. -/
def isLabel (cs : List Char) : Bool :=
  cs.length ≤ maxLabel && cs.all (fun c => c.toNat < 128 || isAllowed c) && isComposed cs &&
    !cs.head?.any isMark && joinersFit [] cs

/-- The characters for which a label in small letters of ASCII stands, unless it is malformed. -/
def ofAscii? (label : List Char) : Option (List Char) :=
  match label with
  | 'x' :: 'n' :: '-' :: '-' :: encoded =>
    if encoded.isEmpty || encoded.getLast? == some '-' || maxEncoded < encoded.length then none
    else
      match Punycode.decode? encoded with
      | some cs => if isLabel cs then some cs else none
      | none => none
  | label => some label

/-- Whether the labels of a domain in small letters of ASCII are well formed. -/
def isWellFormed (domain : List Char) : Bool :=
  match (Text.pieces '.' domain).mapM ofAscii? with
  | none => false
  | some labels => !labels.any goesRight || labels.all hasDirection

end SignOn.Http.Domain
