import SignOn.Text.Decimal

/-!
# Dates in header fields

A moment as days since the start of 1970 and seconds of a day, in the form
`Tue, 14 Nov 2023 22:13:20 GMT`. The reader also takes three older forms of cookies:

    Thu, 01-Jan-1970 00:00:00 GMT
    Thursday, 01-Jan-70 00:00:00 GMT
    Thu Jan  1 00:00:00 1970

The day of the week may be left out, with what separates it from the date, and is not checked
against the date. A year below 69 is one of this century, and one from 69 to 99 of the last.
-/

namespace SignOn.Http.Date

/-! ## The calendar -/

/-- Whether a year has a leap day. -/
def isLeap (year : Int) : Bool :=
  year % 4 == 0 && (year % 100 != 0 || year % 400 == 0)

/-- The number of days of a month, counted from 1. -/
def monthLength (year : Int) (month : Nat) : Nat :=
  if month = 2 then if isLeap year then 29 else 28
  else if [4, 6, 9, 11].contains month then 30
  else 31

/-- The days from the start of 1970 to the start of a year. -/
def daysBeforeYear (year : Int) : Int :=
  let y := year - 1
  365 * y + y / 4 - y / 100 + y / 400 - 719162

/-- The days from the start of a year to the start of a month. -/
def daysBeforeMonth (year : Int) (month : Nat) : Nat :=
  (List.range (month - 1)).foldl (fun days m => days + monthLength year (m + 1)) 0

/-- The days from the start of 1970 to a date. -/
def daysOf (year : Int) (month day : Nat) : Int :=
  daysBeforeYear year + daysBeforeMonth year month + (day - 1 : Int)

/-- The year that a day belongs to. -/
def yearOf (days : Int) : Int :=
  let estimate := 1970 + days * 400 / 146097
  if days < daysBeforeYear estimate then estimate - 1
  else if daysBeforeYear (estimate + 1) ≤ days then estimate + 1
  else estimate

/-- The month and the day of the month of a day of a year, counted from 0. -/
def monthAndDay (year : Int) (dayOfYear : Nat) : Nat × Nat :=
  let month := ((List.range 12).filter fun m =>
    daysBeforeMonth year (m + 1) ≤ dayOfYear).length
  (month, dayOfYear - daysBeforeMonth year month + 1)

/-! ## Names -/

/-- The days of the week from the one that 1970 began with. -/
def weekdays : List String :=
  ["Thursday", "Friday", "Saturday", "Sunday", "Monday", "Tuesday", "Wednesday"]

/-- The short names of the days of the week. -/
def shortWeekdays : List String :=
  ["Thu", "Fri", "Sat", "Sun", "Mon", "Tue", "Wed"]

/-- The short names of the months. -/
def months : List String :=
  ["Jan", "Feb", "Mar", "Apr", "May", "Jun", "Jul", "Aug", "Sep", "Oct", "Nov", "Dec"]

/-! ## Writing -/

/-- The first second that is too late to be written: the years have four digits. -/
def tooLate : Int :=
  daysBeforeYear 10000 * 86400

/-- The text of a moment, given in seconds since the start of 1970, before the year 10000. -/
def text? (seconds : Int) : Option String :=
  if tooLate ≤ seconds then none
  else
    let days := seconds / 86400
    let rest := (seconds % 86400).toNat
    let year := yearOf days
    let (month, day) := monthAndDay year (days - daysBeforeYear year).toNat
    let two := Text.Decimal.padded 2
    some (shortWeekdays.getD (days % 7).toNat "" ++ ", " ++ two day ++ " " ++
      months.getD (month - 1) "" ++ " " ++ String.ofList (Text.Decimal.printInt year) ++ " " ++
      two (rest / 3600) ++ ":" ++ two (rest / 60 % 60) ++ ":" ++ two (rest % 60) ++ " GMT")

/-! ## Reading -/

/-- A reader takes something off the front of a text. -/
abbrev Reader (α : Type) := StateT (List Char) Option α

/-- Reads a given text. -/
def literal (s : String) : Reader Unit := fun cs =>
  if s.toList.isPrefixOf cs then some ((), cs.drop s.toList.length) else none

/-- Reads one of several names, and answers which. -/
def oneOf (names : List String) : Reader Nat := fun cs =>
  match names.findIdx? fun s => s.toList.isPrefixOf cs with
  | some i => some (i, cs.drop (names.getD i "").toList.length)
  | none => none

/-- Reads something that may be left out. -/
def optionally (reader : Reader Unit) : Reader Unit := fun cs =>
  (reader cs).or (some ((), cs))

/-- Reads at most `n` digits, and at least one. -/
def digits (n : Nat) : Reader Nat := fun cs =>
  let run := (cs.take n).takeWhile Char.isDigit
  (Text.Decimal.natural? run).map fun v => (v, cs.drop run.length)

/-- Reads two digits. -/
def twoDigits : Reader Nat := fun cs =>
  let run := (cs.take 2).takeWhile Char.isDigit
  if run.length = 2 then (Text.Decimal.natural? run).map fun v => (v, cs.drop 2) else none

/-- Reads a day of two characters, of which the first may be a blank. -/
def spacedDay : Reader Nat := fun cs =>
  match cs with
  | ' ' :: rest => digits 1 rest
  | _ => twoDigits cs

/-- Reads a year of one to four digits, which may have a sign. -/
def fullYear : Reader Int := fun cs =>
  match cs with
  | '-' :: rest => (digits 4 rest).map fun (n, rest) => (-(n : Int), rest)
  | '+' :: rest => (digits 4 rest).map fun (n, rest) => ((n : Int), rest)
  | _ => (digits 4 cs).map fun (n, rest) => ((n : Int), rest)

/-- The year that a short year stands for. -/
def century (year : Int) : Int :=
  if 0 ≤ year ∧ year ≤ 68 then year + 2000
  else if 69 ≤ year ∧ year ≤ 99 then year + 1900
  else year

/-- Reads a time of day as seconds. -/
def timeOfDay : Reader Nat := do
  let hour ← twoDigits
  literal ":"
  let minute ← twoDigits
  literal ":"
  let second ← twoDigits
  if hour < 24 ∧ minute < 60 ∧ second < 60 then return hour * 3600 + minute * 60 + second
  else failure

/-- The moment of a time on a date, in seconds since the start of 1970. -/
def moment (year : Int) (month day time : Nat) : Reader Int :=
  let year := century year
  if 1 ≤ day ∧ day ≤ monthLength year (month + 1) then
    return daysOf year (month + 1) day * 86400 + time
  else failure

/-- Reads the day of the week, if it is there, with what stands behind it. -/
def weekday (names : List String) (separator : String) : Reader Unit :=
  optionally do
    let _ ← oneOf names
    literal separator

/-- Reads a date whose day, month and year stand between marks. -/
def dayFirst (weekdays : List String) (mark : String) (year : Reader Int) : Reader Int := do
  weekday weekdays ", "
  let day ← twoDigits
  literal mark
  let month ← oneOf months
  literal mark
  let y ← year
  literal " "
  let time ← timeOfDay
  literal " GMT"
  moment y month day time

/-- Reads a date that begins with the month and ends with the year. -/
def monthFirst : Reader Int := do
  weekday shortWeekdays " "
  let month ← oneOf months
  literal " "
  let day ← spacedDay
  literal " "
  let time ← timeOfDay
  literal " "
  let year ← fullYear
  moment year month day time

/-- Reads a whole text. -/
def whole? (reader : Reader Int) (cs : List Char) : Option Int :=
  match reader cs with
  | some (seconds, []) => some seconds
  | _ => none

/-- Reads a date in one of the four forms as seconds since the start of 1970. -/
def parse? (s : String) : Option Int :=
  let cs := s.toList
  let shortYear : Reader Int := do
    let n ← twoDigits
    return (n : Int)
  (whole? (dayFirst shortWeekdays " " fullYear) cs).orElse fun _ =>
    (whole? (dayFirst weekdays "-" shortYear) cs).orElse fun _ =>
      (whole? monthFirst cs).orElse fun _ =>
        whole? (dayFirst shortWeekdays "-" fullYear) cs

end SignOn.Http.Date
