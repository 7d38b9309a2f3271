import SchemaMigration.Text.Numeral

/-!
# Timestamps

A moment to the second in the calendar, and its text: the digits of year, month, day, hour, minute
and second.  For the years from 0 to 9999 the order of the texts is the order of the moments.
-/

namespace SchemaMigration

/-- A moment. -/
structure Timestamp where
  year : Int
  month : Nat
  day : Nat
  hour : Nat
  minute : Nat
  second : Nat
  deriving DecidableEq, Repr

namespace Timestamp

/-! ### The calendar -/

/-- Whether a year has a day more. -/
def isLeapYear (year : Int) : Bool :=
  year % 4 == 0 && (year % 100 != 0 || year % 400 == 0)

/-- The number of days of a month. -/
def daysIn (year : Int) (month : Nat) : Nat :=
  if month = 2 then (if isLeapYear year then 29 else 28)
  else if month = 4 ∨ month = 6 ∨ month = 9 ∨ month = 11 then 30
  else 31

/-- The first and the last year that are counted. -/
def years : Int × Int := (-262143, 262142)

/-- Whether the moment exists. -/
def isValid (t : Timestamp) : Bool :=
  decide (years.1 ≤ t.year ∧ t.year ≤ years.2) && decide (1 ≤ t.month ∧ t.month ≤ 12) &&
    decide (1 ≤ t.day ∧ t.day ≤ daysIn t.year t.month) && decide (t.hour < 24) &&
    decide (t.minute < 60) && decide (t.second < 60)

/-! ### Writing -/

/-- The text of a year: four digits, or more with a sign. -/
def yearText (year : Int) : String :=
  (if year < 0 then "-" else if 9999 < year then "+" else "") ++ Numeral.padded 4 year.natAbs

/-- The text of a moment. -/
def text (t : Timestamp) : String :=
  yearText t.year ++ Numeral.padded 2 t.month ++ Numeral.padded 2 t.day ++
    Numeral.padded 2 t.hour ++ Numeral.padded 2 t.minute ++ Numeral.padded 2 t.second

end Timestamp
end SchemaMigration
