import Marginalia.Text.DecimalDigit
import Marginalia.Text.WhiteSpace

/-!
# Commit dates

A commit date is written as a month, a day and a year of four digits, such as
`Jul 2 2020`. A value must have that shape before it is read, and what is read
must be a day of the calendar.
-/

namespace Marginalia

/-- A day of the Gregorian calendar, extended to all years. -/
structure CalendarDate where
  year : Int
  month : Nat
  day : Nat
  deriving DecidableEq

namespace CalendarDate

/-- Leap years are the multiples of four that are not centuries, and every
fourth century. -/
def isLeapYear (year : Int) : Bool :=
  year % 4 == 0 && (year % 100 != 0 || year % 400 == 0)

def daysInMonth (year : Int) (month : Nat) : Nat :=
  match month with
  | 1 => 31
  | 2 => if isLeapYear year then 29 else 28
  | 3 => 31
  | 4 => 30
  | 5 => 31
  | 6 => 30
  | 7 => 31
  | 8 => 31
  | 9 => 30
  | 10 => 31
  | 11 => 30
  | 12 => 31
  | _ => 0

/-- Whether the date is a day of its month. -/
def isDay (date : CalendarDate) : Bool :=
  1 ≤ date.day && date.day ≤ daysInMonth date.year date.month

/-- Whether a date is the same as another or earlier. -/
def notAfter (first second : CalendarDate) : Bool :=
  decide (first.year < second.year) ||
    (first.year == second.year &&
      (decide (first.month < second.month) ||
        (first.month == second.month && decide (first.day ≤ second.day))))

end CalendarDate

/-- Why the calendar rejects a value of the right shape. -/
inductive CalendarFault where
  | notReadable
  | outOfRange
  | trailingInput
  deriving DecidableEq

/-- Why a commit date is rejected. -/
inductive CommitDateError where
  | shape
  | calendar (fault : CalendarFault)
  deriving DecidableEq

def CommitDateError.message : CommitDateError → Text
  | .shape => "expected a date like \"Jul 2 2020\""
  | .calendar .notReadable => "input contains invalid characters"
  | .calendar .outOfRange => "input is out of range"
  | .calendar .trailingInput => "trailing input"

namespace CommitDate

/-! ## Shape -/

/-- Whether a character is a letter of the English alphabet. -/
def isLetter (c : Char) : Bool :=
  ('a' ≤ c && c ≤ 'z') || ('A' ≤ c && c ≤ 'Z')

/-- Whether a text is one or two digits, a space and four digits, where digits
of every script count. -/
def hasDayAndYear : Text → Bool
  | [a, ' ', p, q, r, s] => [a, p, q, r, s].all isDecimalDigit
  | [a, b, ' ', p, q, r, s] => [a, b, p, q, r, s].all isDecimalDigit
  | _ => false

/-- Whether a value is three letters, a space, and a day and a year. -/
def hasShape : Text → Bool
  | a :: b :: c :: ' ' :: rest => [a, b, c].all isLetter && hasDayAndYear rest
  | _ => false

/-! ## Reading -/

/-- The abbreviated names of the months, in small letters. -/
def monthNames : List Text :=
  [['j', 'a', 'n'], ['f', 'e', 'b'], ['m', 'a', 'r'], ['a', 'p', 'r'],
   ['m', 'a', 'y'], ['j', 'u', 'n'], ['j', 'u', 'l'], ['a', 'u', 'g'],
   ['s', 'e', 'p'], ['o', 'c', 't'], ['n', 'o', 'v'], ['d', 'e', 'c']]

/-- The number of a month from its abbreviated name in any letter case. -/
def monthNumber? (name : Text) : Option Nat :=
  (monthNames.findIdx? (· == name.map Char.toLower)).map (· + 1)

/-- Read ASCII digits, at most `limit` of them, from the start of a text. -/
def leadingNumber? (limit : Nat) (text : Text) : Option (Nat × Text) :=
  let digits := (text.take limit).takeWhile Char.isDigit
  (Text.readDigits? 10 digits).map fun value =>
    (value, text.drop digits.length)

/-- Read the year, which ends the value, and check the day against it. -/
def readYear (month day : Nat) (text : Text) :
    Except CalendarFault CalendarDate :=
  match leadingNumber? 4 text.trimStart with
  | none => .error .notReadable
  | some (year, rest) =>
      if !rest.isEmpty then .error .trailingInput
      else
        let date : CalendarDate := ⟨year, month, day⟩
        if date.isDay then .ok date else .error .outOfRange

def readDay (month : Nat) (text : Text) : Except CalendarFault CalendarDate :=
  match leadingNumber? 2 text.trimStart with
  | none => .error .notReadable
  | some (day, rest) =>
      if 1 ≤ day ∧ day ≤ 31 then readYear month day rest
      else .error .outOfRange

/-- Read a value of the right shape as a day of the calendar. -/
def read (value : Text) : Except CalendarFault CalendarDate :=
  match monthNumber? (value.take 3) with
  | none => .error .notReadable
  | some month => readDay month (value.drop 3)

/-- Read a commit date; white space around it does not matter. -/
def parse (value : Text) : Except CommitDateError CalendarDate :=
  let trimmed := value.trim
  -- The shape allows digits of every script and reading only ASCII digits, so a
  -- value of the right shape may still not be readable.
  if hasShape trimmed then (read trimmed).mapError .calendar
  else .error .shape

end CommitDate

end Marginalia
