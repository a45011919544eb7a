/-!
# Calendar dates

Dates of the Gregorian calendar, extended over all years, and their day numbers. Day zero is the
first of January 1970. Years are counted from March, so that the leap day is the last day of its
year, and grouped into eras of four hundred years, all of which have the same length.
-/

set_option autoImplicit false

namespace Annals

/-- A date of the calendar. -/
structure Date where
  /-- The year; the year zero is the one before the year one. -/
  year : Int
  /-- The month, from one to twelve. -/
  month : Nat
  /-- The day of the month, from one on. -/
  day : Nat
  deriving DecidableEq, Inhabited

namespace Date

def isLeapYear (year : Int) : Bool :=
  year % 4 = 0 && (year % 100 ≠ 0 || year % 400 = 0)

/-- The number of days of a month. -/
def monthLength (year : Int) (month : Nat) : Nat :=
  match month with
  | 2 => if isLeapYear year then 29 else 28
  | 4 | 6 | 9 | 11 => 30
  | _ => 31

def exists? (date : Date) : Bool :=
  1 ≤ date.month && date.month ≤ 12 && 1 ≤ date.day
    && date.day ≤ monthLength date.year date.month

/-- The number of days in four hundred years. -/
def eraDays : Int := 146097

/-- The number of days from the first of March of the year zero to day zero. -/
def epochShift : Int := 719468

/-- The number of days between the first of March and a date, within the year from March. -/
def dayOfYear (month day : Nat) : Int :=
  (153 * (((month + 9) % 12 : Nat) : Int) + 2) / 5 + day - 1

/-- The day number of a date. -/
def toDays (date : Date) : Int :=
  let year := if date.month ≤ 2 then date.year - 1 else date.year
  let era := year / 400
  let yearOfEra := year % 400
  let dayOfEra := yearOfEra * 365 + yearOfEra / 4 - yearOfEra / 100
    + dayOfYear date.month date.day
  era * eraDays + dayOfEra - epochShift

/-- The date of a day number. -/
def ofDays (days : Int) : Date :=
  let shifted := days + epochShift
  let era := shifted / eraDays
  let dayOfEra := shifted % eraDays
  let yearOfEra := (dayOfEra - dayOfEra / 1460 + dayOfEra / 36524 - dayOfEra / 146096) / 365
  let dayOfYear := dayOfEra - (365 * yearOfEra + yearOfEra / 4 - yearOfEra / 100)
  let marchMonth := (5 * dayOfYear + 2) / 153
  let day := dayOfYear - (153 * marchMonth + 2) / 5 + 1
  let month := if marchMonth < 10 then marchMonth + 3 else marchMonth - 9
  let year := yearOfEra + era * 400 + (if month ≤ 2 then 1 else 0)
  ⟨year, month.toNat, day.toNat⟩

end Date

end Annals
