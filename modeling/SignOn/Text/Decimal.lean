/-!
# Decimal integers

Reading and writing integers in decimal. A number is an optional sign followed by one or more
ASCII digits; leading zeros are allowed. The readers for machine words refuse values out of range.
-/

namespace SignOn.Text.Decimal

/-- The value of a decimal digit. -/
def digit? (c : Char) : Option Nat :=
  if '0' ≤ c ∧ c ≤ '9' then some (c.toNat - '0'.toNat) else none

/-- Continues a number whose leading digits have the value `acc`. -/
def digits? (acc : Nat) : List Char → Option Nat
  | [] => some acc
  | c :: cs =>
    match digit? c with
    | some d => digits? (10 * acc + d) cs
    | none => none

/-- The value of a non-empty run of digits. -/
def natural? : List Char → Option Nat
  | [] => none
  | cs => digits? 0 cs

/-- The value of a run of digits with an optional sign in front. -/
def integer? : List Char → Option Int
  | '+' :: cs => (natural? cs).map Int.ofNat
  | '-' :: cs => (natural? cs).map fun n => -Int.ofNat n
  | cs => (natural? cs).map Int.ofNat

/-- Whether an integer fits into 64 bits with a sign. -/
def fitsInt64 (v : Int) : Bool :=
  -9223372036854775808 ≤ v && v ≤ 9223372036854775807

/-- Reads a 64-bit integer with a sign. -/
def int64? (s : String) : Option Int64 :=
  match integer? s.toList with
  | some v => if fitsInt64 v then some (Int64.ofInt v) else none
  | none => none

/-- Reads a 64-bit natural number, which may carry a plus sign. -/
def word64? (cs : List Char) : Option Nat :=
  let number := match cs with
    | '+' :: rest => natural? rest
    | _ => natural? cs
  number.bind fun n => if n ≤ 18446744073709551615 then some n else none

/-- The digits of a natural number, the most significant first. -/
def printNat (n : Nat) : List Char :=
  Nat.toDigits 10 n

/-- An integer in decimal, with a minus sign when it is negative. -/
def printInt : Int → List Char
  | .ofNat n => printNat n
  | .negSucc n => '-' :: printNat (n + 1)

/-- A 64-bit integer in decimal. -/
def print (v : Int64) : String :=
  String.ofList (printInt v.toInt)

/-- A natural number in decimal with zeros in front up to the given width. -/
def padded (width n : Nat) : String :=
  let digits := printNat n
  String.ofList (List.replicate (width - digits.length) '0' ++ digits)

end SignOn.Text.Decimal
