/-!
# Cutting sequences at separators

Cuts at the first or the last separator, and all the pieces between separators. The functions
work on lists, so that they serve characters and bytes alike.
-/

namespace SignOn.Text

variable {α : Type}

/-- What stands before and after the first `d`, if there is one. -/
def cut? [BEq α] (d : α) : List α → Option (List α × List α)
  | [] => none
  | x :: xs => if x == d then some ([], xs) else (cut? d xs).map fun (a, b) => (x :: a, b)

/-- The part before the first `d`, or everything. -/
def before [BEq α] (d : α) (xs : List α) : List α :=
  xs.takeWhile (· != d)

/-- What stands before and after the last occurrence of `sep`, if there is one. -/
def cutLast? [BEq α] (sep : List α) : List α → Option (List α × List α)
  | [] => none
  | x :: xs =>
    match cutLast? sep xs with
    | some (a, b) => some (x :: a, b)
    | none => if sep.isPrefixOf (x :: xs) then some ([], (x :: xs).drop sep.length) else none

/-- The pieces between the elements satisfying `p`: one more than there are separators. -/
def piecesBy (p : α → Bool) : List α → List (List α)
  | [] => [[]]
  | x :: xs =>
    if p x then [] :: piecesBy p xs
    else
      match piecesBy p xs with
      | [] => [[x]]
      | y :: ys => (x :: y) :: ys

/-- The pieces between the occurrences of `d`. -/
def pieces [BEq α] (d : α) (xs : List α) : List (List α) :=
  piecesBy (· == d) xs

/-- The pieces of a text between the occurrences of a character. -/
def splitText (d : Char) (s : String) : List String :=
  (pieces d s.toList).map String.ofList

end SignOn.Text
