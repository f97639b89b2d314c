import Formwork.Text.Digit
/-!
# Dates and times

A moment is a number of microseconds since the start of year one of the proleptic Gregorian calendar.  `Moment.read`
parses the expiry of stored credentials, and `Moment.text` is the ISO format in which it is stored.
-/
namespace Formwork

/-- A moment, in microseconds since the start of year one. -/
structure Moment where
  /-- The microseconds. -/
  micros : Nat
deriving DecidableEq, Inhabited

namespace Calendar

/-- A leap year. -/
def isLeap (year : Nat) : Bool := year % 4 = 0 && (year % 100 ≠ 0 || year % 400 = 0)

/-- The lengths of the months of a year. -/
def monthLengths (year : Nat) : List Nat :=
  [31, if isLeap year then 29 else 28, 31, 30, 31, 30, 31, 31, 30, 31, 30, 31]

/-- The days before a year, counted from year one. -/
def daysBefore (year : Nat) : Nat :=
  let past := year - 1
  past * 365 + past / 4 - past / 100 + past / 400

/-- The number of a day, counted from zero at the start of year one. -/
def dayNumber (year month day : Nat) : Nat :=
  ((monthLengths year).take (month - 1)).foldl (· + ·) (daysBefore year) + (day - 1)

/-- The month that a day of a year falls into, and the day of that month. -/
def monthOf (month day : Nat) : List Nat → Nat × Nat
  | [] => (month, day + 1)
  | length :: rest => if day < length then (month, day + 1) else monthOf (month + 1) (day - length) rest

/-- The year, month and day of a day with this number. -/
def dateOf (number : Nat) : Nat × Nat × Nat :=
  let (fourHundreds, rest) := (number / 146097, number % 146097)
  let hundreds := min (rest / 36524) 3
  let rest := rest - hundreds * 36524
  let (fours, rest) := (rest / 1461, rest % 1461)
  let ones := min (rest / 365) 3
  let year := fourHundreds * 400 + hundreds * 100 + fours * 4 + ones + 1
  (year, monthOf 1 (rest - ones * 365) (monthLengths year))

/-- The last year that moments reach. -/
def lastYear : Nat := 9999

end Calendar

namespace Moment

open Calendar

/-- The microseconds of a second. -/
def second : Nat := 1000000

/-- The moment of a date and a time of day. -/
def of (year month day hour minute seconds : Nat) : Moment :=
  ⟨(((dayNumber year month day * 24 + hour) * 60 + minute) * 60 + seconds) * second⟩

/-- Why a text is no date and time. -/
inductive Fault
  /-- It does not have the format. -/
  | form
  /-- It has this text behind it. -/
  | leftOver (rest : String)
  /-- The year is zero. -/
  | yearZero
  /-- The month has no such day. -/
  | noSuchDay
  /-- It is a leap second. -/
  | leapSecond
deriving DecidableEq, Inhabited

/-- The value of an ASCII digit. -/
def digit? (c : Char) : Option Nat := if '0' ≤ c ∧ c ≤ '9' then some (c.toNat - 48) else none

/-- The number from the least to the greatest that these tens and a digit make.  Where any digit would do,
it may be one of any script. -/
def withUnits? (least greatest tens : Nat) (c : Char) : Option Nat := do
  let free := least ≤ tens * 10 ∧ tens * 10 + 9 ≤ greatest
  let units ← if free then Text.decimalDigit? c else digit? c
  let n := tens * 10 + units
  if least ≤ n ∧ n ≤ greatest then some n else none

/-- A number from the least to the greatest, of two digits if two make one in that range, and otherwise of
one digit. -/
def number? (least greatest : Nat) : List Char → Option (Nat × List Char)
  | [] => none
  | [c] => (withUnits? least greatest 0 c).map (·, [])
  | c :: d :: rest =>
    match (digit? c).bind (withUnits? least greatest · d) with
    | some n => some (n, rest)
    | none => (withUnits? least greatest 0 c).map (·, d :: rest)

/-- A day of a month, the first nine also with a blank in front. -/
def day? : List Char → Option (Nat × List Char)
  | ' ' :: c :: rest => (withUnits? 1 31 0 c).map (·, rest)
  | s => number? 1 31 s

/-- A year of four digits. -/
def year? : List Char → Option (Nat × List Char)
  | a :: b :: c :: d :: rest => do
    let digits ← [a, b, c, d].mapM Text.decimalDigit?
    return (digits.foldl (fun year digit => year * 10 + digit) 0, rest)
  | _ => none

/-- The text behind one of these characters. -/
def behind? (marks : List Char) : List Char → Option (List Char)
  | c :: rest => if marks.contains c then some rest else none
  | [] => none

/-- The numbers of a date and a time of day, and what follows them. -/
def parts? (s : List Char) : Option ((Nat × Nat × Nat × Nat × Nat × Nat) × List Char) := do
  let (year, s) ← year? s
  let (month, s) ← number? 1 12 (← behind? ['-'] s)
  let (day, s) ← day? (← behind? ['-'] s)
  let (hour, s) ← number? 0 23 (← behind? ['T', 't'] s)
  let (minute, s) ← number? 0 59 (← behind? [':'] s)
  let (seconds, s) ← number? 0 61 (← behind? [':'] s)
  return ((year, month, day, hour, minute, seconds), s)

/-- The moment of a text such as `2999-01-01T00:00:00`. -/
def read (text : String) : Except Fault Moment :=
  match parts? text.toList with
  | none => .error .form
  | some ((year, month, day, hour, minute, seconds), rest) =>
    if rest ≠ [] then .error (.leftOver (String.ofList rest))
    else if year = 0 then .error .yearZero
    else if (monthLengths year).getD (month - 1) 0 < day then .error .noSuchDay
    else if 59 < seconds then .error .leapSecond
    else .ok (of year month day hour minute seconds)

/-- A number in decimal digits, with zeros in front up to a width. -/
def padded (width n : Nat) : String :=
  let digits := Nat.toDigits 10 n
  String.ofList (List.replicate (width - digits.length) '0' ++ digits)

/-- The date and the time of day, with a fraction of a second if there is one. -/
def text (moment : Moment) : String :=
  let fraction := moment.micros % second
  let total := moment.micros / second
  let (year, month, day) := dateOf (total / 86400)
  let seconds := total % 86400
  s!"{padded 4 year}-{padded 2 month}-{padded 2 day}T"
    ++ s!"{padded 2 (seconds / 3600)}:{padded 2 (seconds / 60 % 60)}:{padded 2 (seconds % 60)}"
    ++ if fraction = 0 then "" else "." ++ padded 6 fraction

/-- The moment from which time is counted in seconds. -/
def epoch : Moment := of 1970 1 1 0 0 0

/-- The first moment after the last year. -/
def ending : Moment := of (lastYear + 1) 1 1 0 0 0

/-- The moment this many microseconds after the epoch, if the calendar reaches it. -/
def ofMicros? (micros : Int) : Option Moment :=
  let total := epoch.micros + micros
  if 0 ≤ total ∧ total < ending.micros then some ⟨total.toNat⟩ else none

end Moment
end Formwork
