/-!
# Texts in quotes

Taking off one pair of double quotes around a text.
-/

namespace SignOn.Text

/-- Characters without the pair of double quotes around them, if there is one. -/
def unquoteChars (cs : List Char) : List Char :=
  match cs with
  | '"' :: rest =>
    match rest.getLast? with
    | some '"' => rest.dropLast
    | _ => cs
  | _ => cs

/-- A text without the pair of double quotes around it, if there is one. -/
def unquote (s : String) : String :=
  String.ofList (unquoteChars s.toList)

end SignOn.Text
