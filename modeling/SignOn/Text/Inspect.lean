import SignOn.Text.PrintTable
import SignOn.Text.Decimal

/-!
# Inspection texts

How values are shown to a developer: a record as its name and fields, lists in square brackets,
sets in braces, texts in quotes with everything that is not plain written as an escape.
-/

namespace SignOn.Text.Inspect

/-- The digits of a number in lower-case hexadecimal, as few as possible. -/
def hex (n : Nat) : String :=
  String.ofList (Nat.toDigits 16 n)

/-- A character within a quoted text. -/
def escape (c : Char) : String :=
  if c = '\x00' then "\\0"
  else if c = '\t' then "\\t"
  else if c = '\r' then "\\r"
  else if c = '\n' then "\\n"
  else if c = '\\' then "\\\\"
  else if c = '"' then "\\\""
  else if isPlain c then String.singleton c
  else "\\u\x7b" ++ hex c.toNat ++ "\x7d"

/-- A text in quotes. -/
def quote (s : String) : String :=
  "\"" ++ String.join (s.toList.map escape) ++ "\""

/-- A truth value. -/
def bool (b : Bool) : String :=
  if b then "true" else "false"

/-- A value that may be absent. -/
def option (v : Option String) : String :=
  match v with
  | some text => "Some(" ++ text ++ ")"
  | none => "None"

/-- Items between brackets. -/
def list (items : List String) : String :=
  "[" ++ ", ".intercalate items ++ "]"

/-- Items between braces. -/
def set (items : List String) : String :=
  "\x7b" ++ ", ".intercalate items ++ "\x7d"

/-- Items between parentheses. -/
def tuple (items : List String) : String :=
  "(" ++ ", ".intercalate items ++ ")"

/-- A record with all its fields. -/
def record (name : String) (fields : List (String × String)) : String :=
  name ++ " \x7b " ++ ", ".intercalate (fields.map fun (k, v) => k ++ ": " ++ v) ++ " \x7d"

/-- A record that keeps some of its fields to itself. -/
def partialRecord (name : String) (fields : List (String × String)) : String :=
  name ++ " \x7b " ++ ", ".intercalate (fields.map (fun (k, v) => k ++ ": " ++ v) ++ [".."]) ++
    " \x7d"

/-- A quotient in decimal with as few places as it needs; `scale` is a power of ten. -/
def decimal (value scale : Nat) : String :=
  let places := (Nat.toDigits 10 scale).length - 1
  let fraction := (Decimal.padded places (value % scale)).toList.reverse.dropWhile (· == '0')
  let whole := String.ofList (Decimal.printNat (value / scale))
  if fraction.isEmpty then whole else whole ++ "." ++ String.ofList fraction.reverse

/-- A length of time, given in nanoseconds, in the largest unit of which it holds one. -/
def duration (nanos : Nat) : String :=
  if nanos ≥ 1000000000 then decimal nanos 1000000000 ++ "s"
  else if nanos ≥ 1000000 then decimal nanos 1000000 ++ "ms"
  else if nanos ≥ 1000 then decimal nanos 1000 ++ "µs"
  else decimal nanos 1 ++ "ns"

end SignOn.Text.Inspect
