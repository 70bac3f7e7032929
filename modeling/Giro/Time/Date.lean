import Giro.Text.Digits

/-!
# Calendar dates

A date is a count of days from 1 January 1970, so that the distance between two
dates is a difference of integers. Year, month and day follow from it by the
rules of the Gregorian calendar, extended in both directions.
-/

namespace Giro

/-- A day, counted from 1 January 1970. -/
structure Date where
  day : Int
deriving DecidableEq

namespace Date

instance : LT Date := ⟨fun left right => left.day < right.day⟩

instance : LE Date := ⟨fun left right => left.day <= right.day⟩

instance (left right : Date) : Decidable (left < right) :=
  inferInstanceAs (Decidable (left.day < right.day))

instance (left right : Date) : Decidable (left <= right) :=
  inferInstanceAs (Decidable (left.day <= right.day))

/-- Year, month and day of the month. -/
structure Civil where
  year : Int
  month : Nat
  day : Nat
deriving DecidableEq

/-- Whether a year has a leap day. -/
def isLeapYear (year : Int) : Bool :=
  year % 4 = 0 && (year % 100 != 0 || year % 400 = 0)

/-- The number of days of a month. -/
def daysInMonth (year : Int) (month : Nat) : Nat :=
  if month = 2 then (if isLeapYear year then 29 else 28)
  else if month = 4 || month = 6 || month = 9 || month = 11 then 30
  else 31

/-- The earliest year that dates reach. -/
def minYear : Int := -262143

/-- The latest year that dates reach. -/
def maxYear : Int := 262142

/-- Days from the first of March to the first of a month, months counted from March. -/
def daysBeforeMonth (monthFromMarch : Nat) : Nat :=
  (153 * monthFromMarch + 2) / 5

/-- The date of a year, month and day, whether or not they name a real one. -/
def ofCivil (civil : Civil) : Date :=
  let year := if civil.month <= 2 then civil.year - 1 else civil.year
  let monthFromMarch := (civil.month + 9) % 12
  let dayOfYear := daysBeforeMonth monthFromMarch + civil.day - 1
  ⟨365 * year + year / 4 - year / 100 + year / 400 + (dayOfYear : Int) - 719468⟩

/-- The date of a year, month and day that name a real one. -/
def ofCivil? (year : Int) (month day : Nat) : Option Date :=
  if minYear <= year && year <= maxYear && 1 <= month && month <= 12 &&
      1 <= day && day <= daysInMonth year month then
    some (ofCivil ⟨year, month, day⟩)
  else none

/-- Year, month and day of a date. -/
def toCivil (date : Date) : Civil :=
  let shifted := date.day + 719468
  let era := shifted / 146097
  let dayOfEra := (shifted % 146097).toNat
  let yearOfEra := (dayOfEra - dayOfEra / 1460 + dayOfEra / 36524 - dayOfEra / 146096) / 365
  let dayOfYear := dayOfEra - (365 * yearOfEra + yearOfEra / 4 - yearOfEra / 100)
  let monthFromMarch := (5 * dayOfYear + 2) / 153
  let month := if monthFromMarch < 10 then monthFromMarch + 3 else monthFromMarch - 9
  let year : Int := era * 400 + yearOfEra
  ⟨if month <= 2 then year + 1 else year, month,
    dayOfYear - daysBeforeMonth monthFromMarch + 1⟩

/-- The earliest date. -/
def first : Date := ofCivil ⟨minYear, 1, 1⟩

/-- The latest date. -/
def last : Date := ofCivil ⟨maxYear, 12, 31⟩

/-- The date a number of days earlier, if there is one. -/
def minusDays? (date : Date) (days : Nat) : Option Date :=
  if date.day - days < first.day then none else some ⟨date.day - days⟩

/-- A year with four digits, or with a sign if it has more or is before the year zero. -/
def showYear (year : Int) : String :=
  if 0 <= year && year <= 9999 then Text.showPadded 4 year.toNat
  else (if year < 0 then "-" else "+") ++ Text.showPadded 4 year.natAbs

/-- The date as year, month and day. -/
def toText (date : Date) : String :=
  let civil := date.toCivil
  showYear civil.year ++ "-" ++ Text.showPadded 2 civil.month ++ "-" ++
    Text.showPadded 2 civil.day

end Date
end Giro
