import CandidatePool.Numeral
import CandidatePool.Text.Front
/-!
Dates and times.  Only dates that exist are read: the months have the days that they have, and a
leap year has one more.  A minute may have a second 60, for leap seconds.  A time may follow a date,
and a distance from universal time may follow a date with a time, but not a time alone.
-/

namespace CandidatePool.Toml.DateTime

open Numeral

/-! ### Numbers of fixed width -/

/-- A number of exactly `width` decimal digits at the front of a text. -/
def readNumber? (width : Nat) : Text.Reader Nat := fun text => do
  let digits := text.take width
  if digits.length = width then
    return (← value? 10 digits, text.drop width)
  else none

/-! ### Dates -/

/-- Whether a year has a day more: every fourth, of the hundredth every fourth. -/
def isLeapYear (year : Nat) : Bool :=
  year % 4 = 0 && (year % 100 ≠ 0 || year % 400 = 0)

def daysIn (year month : Nat) : Nat :=
  if month = 2 then (if isLeapYear year then 29 else 28)
  else if month = 4 ∨ month = 6 ∨ month = 9 ∨ month = 11 then 30
  else 31

/-- What follows a date, `2024-02-29`. -/
def afterDate? (text : List Char) : Option (List Char) := do
  let (year, text) ← readNumber? 4 text
  let (month, text) ← readNumber? 2 (← Text.after? '-' text)
  let (day, text) ← readNumber? 2 (← Text.after? '-' text)
  if 1 ≤ month ∧ month ≤ 12 ∧ 1 ≤ day ∧ day ≤ daysIn year month then some text else none

/-! ### Times -/

/-- What follows the fraction of a second, where there is one; a point needs a digit behind it. -/
def afterFraction? : List Char → Option (List Char)
  | '.' :: text => if leading 10 text = [] then none else some (afterLeading 10 text)
  | text => some text

/-- What follows a time, `07:32:00` or `07:32:00.5`. -/
def afterTime? (text : List Char) : Option (List Char) := do
  let (hour, text) ← readNumber? 2 text
  let (minute, text) ← readNumber? 2 (← Text.after? ':' text)
  let (second, text) ← readNumber? 2 (← Text.after? ':' text)
  if hour ≤ 23 ∧ minute ≤ 59 ∧ second ≤ 60 then afterFraction? text else none

/-- Whether a text is a distance from universal time, `Z` or `+02:00`. -/
def isOffset : List Char → Bool
  | ['Z'] | ['z'] => true
  | sign :: text =>
    (sign = '+' || sign = '-') && Option.isSome do
      let (hour, text) ← readNumber? 2 text
      let (minute, text) ← readNumber? 2 (← Text.after? ':' text)
      if hour ≤ 23 ∧ minute ≤ 59 ∧ text = [] then some () else none
  | [] => false

/-! ### Both -/

def isDate (text : List Char) : Bool :=
  afterDate? text = some []

/-- Whether a character may stand between a date and a time. -/
def isSeparator (c : Char) : Bool :=
  c = 'T' || c = 't' || c = ' '

/-- Whether a text is a date with a time, and perhaps a distance. -/
def isDateWithTime (text : List Char) : Bool :=
  Option.isSome do
    match ← afterDate? text with
    | [] => none
    | c :: text =>
      let rest ← afterTime? text
      if isSeparator c ∧ (rest = [] ∨ isOffset rest) then some () else none

def isDateTime (text : List Char) : Bool :=
  isDate text || isDateWithTime text || afterTime? text = some []

end CandidatePool.Toml.DateTime
