import QuadClient.Text.Decimal

/-!
# Dates

Days of the Gregorian calendar, carried backwards before its introduction; the year before
year 1 is year 0. A year outside 0 to 9999 is written with its sign.
-/

namespace QuadClient

namespace Date

/-- Every fourth year, except the full centuries that four hundred does not divide. -/
def isLeapYear (year : Int) : Bool :=
  year % 4 == 0 && (year % 100 != 0 || year % 400 == 0)

/-- The days of a month; none for a number that is no month. -/
def daysInMonth (year : Int) (month : Nat) : Nat :=
  match month with
  | 1 | 3 | 5 | 7 | 8 | 10 | 12 => 31
  | 4 | 6 | 9 | 11 => 30
  | 2 => if isLeapYear year then 29 else 28
  | _ => 0

/-- The years that dates are kept for. -/
def isYear (year : Int) : Bool :=
  -262143 ≤ year && year ≤ 262142

/-- Whether there is such a day. -/
def isDate (year : Int) (month day : Nat) : Bool :=
  isYear year && 1 ≤ day && day ≤ daysInMonth year month

end Date

/-- A day of the calendar. -/
structure Date where
  /-- the year, 0 being the year before year 1 -/
  year : Int
  /-- 1 to 12 -/
  month : Nat
  /-- 1 to the length of the month -/
  day : Nat
  /-- there is such a day -/
  valid : Date.isDate year month day = true
  deriving DecidableEq

namespace Date

/-- The day with these numbers, if there is one. -/
def ofNumbers? (year : Int) (month day : Nat) : Option Date :=
  if h : isDate year month day = true then some ⟨year, month, day, h⟩ else none

/-- At least four digits; a sign outside 0 to 9999. -/
def yearText (year : Int) : String :=
  if 0 ≤ year ∧ year ≤ 9999 then Text.padded 4 year.toNat
  else if year < 0 then "-" ++ Text.padded 4 year.natAbs
  else "+" ++ Text.padded 4 year.natAbs

/-- Year, month and day between hyphens. -/
def display (d : Date) : String :=
  yearText d.year ++ "-" ++ Text.padded 2 d.month ++ "-" ++ Text.padded 2 d.day

end Date

end QuadClient
