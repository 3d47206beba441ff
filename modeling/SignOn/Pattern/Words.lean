import SignOn.Pattern.Tree
import SignOn.Text.Utf8

/-!
# Choices between words

A choice between plain words is spelled out as an automaton in which words share their beginnings.
A place in it is known by what is left of the words that lead there, in order. A word that ends at a
place divides the others into those in front of it, which are preferred to it, and those behind it.
-/

namespace SignOn.Pattern

open Text (Bytes)

/-- The sum of what a function says of the items of a list. -/
def total {α : Type} (f : α → Nat) (xs : List α) : Nat :=
  xs.foldl (fun n x => n + f x) 0

/-- The word for which a pattern stands, if it asks for one character behind the other. -/
def Tree.word? : Tree → Option Bytes
  | set s => s.single?.map fun n => String.utf8EncodeChar (.ofNat n)
  | seq a b => do
    let first ← a.word?
    let second ← b.word?
    return first ++ second
  | _ => none

/-- The words between which a pattern chooses, if it chooses between words only. -/
def Tree.words? (t : Tree) : Option (List Bytes) :=
  t.choices.mapM word?

/-- Words divided by those that are empty. -/
def divided : List Bytes → List (List Bytes)
  | [] => [[]]
  | [] :: words => [] :: divided words
  | word :: words =>
    match divided words with
    | [] => [[word]]
    | group :: groups => (word :: group) :: groups

/-- Words without the empty ones that come directly behind an empty word at the front. -/
def withoutRepeatedEnd : List Bytes → List Bytes
  | [] :: words => [] :: words.dropWhile List.isEmpty
  | words => words

/-- The bytes with which words begin. -/
def firstBytes (words : List Bytes) : List UInt8 :=
  (words.filterMap List.head?).eraseDups

/-- What is left of the words that begin with a byte. -/
def leftAfter (b : UInt8) (words : List Bytes) : List Bytes :=
  words.filterMap fun
    | [] => none
    | first :: rest => if first = b then some rest else none

/-- The room of a place and of those behind it, for words that are no longer than given; a place
where all words end takes none. -/
def placesWeight : Nat → List Bytes → Nat
  | 0, _ => 0
  | length + 1, words =>
    if words.all List.isEmpty then 0
    else
      let groups := divided (withoutRepeatedEnd words)
      let ways := (groups.filter (!·.isEmpty)).map fun group => (group, firstBytes group)
      32 + 4 * (ways.length + groups.length - 1)
        + total (fun (_, bytes) => if bytes.length = 1 then 32 else 32 + 8 * bytes.length) ways
        + total (fun (group, bytes) =>
            total (fun b => placesWeight length (leftAfter b group)) bytes) ways

/-- The room of a choice between words. -/
def wordsWeight (words : List Bytes) : Nat :=
  32 + placesWeight (words.foldl (fun n word => Nat.max n word.length) 0) words

end SignOn.Pattern
