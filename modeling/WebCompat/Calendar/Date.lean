import WebCompat.Number.Limit
import WebCompat.Text.Blank

/-!
Calendar days of the proleptic Gregorian calendar, read from and written as
year-month-day. Reading allows white space around the parts and parts without leading
zeros; writing never uses either.
-/

namespace WebCompat

namespace Calendar

/-- Every fourth year has a leap day, except for centuries that 400 does not divide. -/
def isLeapYear (year : Int) : Bool :=
  year % 4 == 0 && (year % 100 != 0 || year % 400 == 0)

def daysInMonth (year : Int) (month : Nat) : Nat :=
  if month = 2 then (if isLeapYear year then 29 else 28)
  else if month = 4 ∨ month = 6 ∨ month = 9 ∨ month = 11 then 30
  else 31

/-- The years that can be represented. -/
def firstYear : Int := -262143

def lastYear : Int := 262142

/-- Whether year, month and day name a day of the calendar. -/
def IsDay (year : Int) (month day : Nat) : Prop :=
  firstYear ≤ year ∧ year ≤ lastYear ∧ 1 ≤ month ∧ month ≤ 12 ∧
    1 ≤ day ∧ day ≤ daysInMonth year month

instance (year : Int) (month day : Nat) : Decidable (IsDay year month day) := by
  unfold IsDay
  infer_instance

end Calendar

open Calendar

/-- A day of the calendar. -/
structure Date where
  year : Int
  month : Nat
  day : Nat
  isDay : IsDay year month day
deriving DecidableEq, Repr

namespace Date

/-- Why a text is not a date. -/
inductive Fault where
  | invalid
  | tooShort
  | outOfRange
  | trailing
deriving DecidableEq, Repr

def Fault.message : Fault → String
  | .invalid => "input contains invalid characters"
  | .tooShort => "premature end of input"
  | .outOfRange => "input is out of range"
  | .trailing => "trailing input"

/-- The value of a sequence of decimal digits. -/
def digitsValue (digits : List Char) : Nat :=
  digits.foldl (fun value digit => 10 * value + (digit.toNat - 48)) 0

/-- Takes digits off the front, at most `width` of them where a width is given. There has to
be one, and the number has to fit into 64 bits with a sign. -/
def takeNumber (width : Option Nat) (s : List Char) : Except Fault (Nat × List Char) :=
  let digits := ((width.map s.take).getD s).takeWhile Char.isDigit
  if s.isEmpty then .error .tooShort
  else if digits.isEmpty then .error .invalid
  else if Number.largestSigned64 < digitsValue digits then .error .outOfRange
  else .ok (digitsValue digits, s.drop digits.length)

/-- Takes a number without a sign, after any white space. -/
def takePart (s : List Char) : Except Fault (Nat × List Char) :=
  takeNumber (some 2) (Text.skipBlank s)

/-- Takes a year, after any white space: four digits at most, or any number of them after a
sign. -/
def takeYear (s : List Char) : Except Fault (Int × List Char) :=
  match Text.skipBlank s with
  | '-' :: rest => (takeNumber none rest).map fun taken => (-taken.1, taken.2)
  | '+' :: rest => (takeNumber none rest).map fun taken => (taken.1, taken.2)
  | rest => (takeNumber (some 4) rest).map fun taken => (taken.1, taken.2)

/-- Takes a hyphen, after any white space. -/
def takeHyphen (s : List Char) : Except Fault (List Char) :=
  match Text.skipBlank s with
  | [] => .error .tooShort
  | '-' :: rest => .ok rest
  | _ => .error .invalid

/-- Refuses a number outside of bounds. -/
def within (low high : Int) (n : Int) : Except Fault Unit :=
  if low ≤ n ∧ n ≤ high then .ok () else .error .outOfRange

/-- Reads a date. The parts are checked as they are read, the year against 32 bits only;
whether they name a day is asked last. -/
def ofChars (s : List Char) : Except Fault Date := do
  let year ← takeYear s
  within (-Number.largestSigned32 - 1) Number.largestSigned32 year.1
  let afterYear ← takeHyphen year.2
  let month ← takePart afterYear
  within 1 12 month.1
  let afterMonth ← takeHyphen month.2
  let day ← takePart afterMonth
  within 1 31 day.1
  if (Text.skipBlank day.2).isEmpty then
    if isDay : IsDay year.1 month.1 day.1 then .ok ⟨year.1, month.1, day.1, isDay⟩
    else .error .outOfRange
  else .error .trailing

def ofString (text : String) : Except Fault Date :=
  ofChars text.toList

/-- A number with leading zeros up to the given width. -/
def padded (width n : Nat) : List Char :=
  let digits := Nat.toDigits 10 n
  List.replicate (width - digits.length) '0' ++ digits

/-- The characters of a date: four digits of the year or more, with a sign where the year is
negative or has more than four digits, and two digits each for month and day. -/
def chars (date : Date) : List Char :=
  let sign := if date.year < 0 then ['-'] else if date.year ≤ 9999 then [] else ['+']
  sign ++ padded 4 date.year.natAbs ++ '-' :: padded 2 date.month ++ '-' :: padded 2 date.day

def text (date : Date) : String :=
  String.ofList date.chars

end Date

end WebCompat
