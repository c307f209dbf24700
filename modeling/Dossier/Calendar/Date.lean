import Dossier.Number.Digits

/-!
# Calendar dates

Dates of the Gregorian calendar, extended to all years between two bounds; the year 0 comes before
the year 1.

* `Date` : a date that exists;
* `Date.of?` : the date with a year, month and day, if there is one;
* `Date.dayNumber` : days on one line, from which weekdays and week numbers follow;
* `Date.iso` : the text of a date with its year, month and day.
-/

namespace Dossier

/-- Whether a year has a 29th of February. -/
def isLeapYear (year : Int) : Bool := year % 4 == 0 && (year % 100 != 0 || year % 400 == 0)

/-- The number of days of a month. -/
def daysInMonth (year : Int) (month : Nat) : Nat :=
  match month with
  | 2 => if isLeapYear year then 29 else 28
  | 4 | 6 | 9 | 11 => 30
  | _ => 31

/-- The first and the last year that dates can have. -/
def minYear : Int := -262143
def maxYear : Int := 262142

/-- Whether there is a date with a year, month and day. -/
def isDate (year : Int) (month day : Nat) : Bool :=
  decide (minYear ≤ year ∧ year ≤ maxYear ∧ 1 ≤ month ∧ month ≤ 12 ∧ 1 ≤ day ∧
    day ≤ daysInMonth year month)

/-- A date that exists. -/
structure Date where
  year : Int
  month : Nat
  day : Nat
  exists_ : isDate year month day = true
deriving DecidableEq

namespace Date

/-- The date with a year, month and day, if there is one. -/
def of? (year : Int) (month day : Nat) : Option Date :=
  if h : isDate year month day = true then some ⟨year, month, day, h⟩ else none

/-- Whether a date is earlier than another. -/
def isBefore (a b : Date) : Bool :=
  decide (a.year < b.year ∨ (a.year = b.year ∧
    (a.month < b.month ∨ (a.month = b.month ∧ a.day < b.day))))

/-- The days of the year before a month. -/
def daysBefore (year : Int) (month : Nat) : Nat :=
  (List.range (month - 1)).foldl (fun days m => days + daysInMonth year (m + 1)) 0

/-- The place of a date in its year, from 1 on. -/
def ordinal (d : Date) : Nat := daysBefore d.year d.month + d.day

/-- The number of days before the first of January of a year, counted from that of the year 1. -/
def yearStart (year : Int) : Int :=
  let y := year - 1
  365 * y + y / 4 - y / 100 + y / 400

/-- The number of days from the first of January of the year 1, which was a Monday. -/
def dayNumber (d : Date) : Int := yearStart d.year + (d.ordinal : Int) - 1

/-- The weekday, from Monday as 0 to Sunday as 6. -/
def weekday (d : Date) : Nat := (d.dayNumber % 7).toNat

/-- The date with a place in a year, if there is one. -/
def ofOrdinal? (year : Int) (ordinal : Nat) : Option Date :=
  let month := ((List.range 12).filter fun m => decide (daysBefore year (m + 1) < ordinal)).length
  of? year month (ordinal - daysBefore year month)

/-- The date with a day number that lies in a year or one of its neighbours. -/
def ofDayNumber? (near : Int) (n : Int) : Option Date :=
  let year :=
    if n < yearStart near then near - 1
    else if yearStart (near + 1) ≤ n then near + 1
    else near
  ofOrdinal? year (n - yearStart year + 1).toNat

/-- The number of the week that a date is in, when weeks start on a weekday and the first one is
the first that lies wholly in the year. -/
def weekFrom (firstDay : Nat) (d : Date) : Int :=
  ((d.ordinal : Int) - (((d.weekday + 7 - firstDay) % 7 : Nat) : Int) + 6) / 7

/-- The day number of the Monday of the first week of a year, the week of the fourth of January. -/
def firstMonday (year : Int) : Int :=
  let fourth := yearStart year + 3
  fourth - fourth % 7

/-- The year and the number of the week that a date is in, when a week belongs to the year that has
most of its days. -/
def isoWeek (d : Date) : Int × Nat :=
  let n := d.dayNumber
  let year :=
    if n < firstMonday d.year then d.year - 1
    else if firstMonday (d.year + 1) ≤ n then d.year + 1
    else d.year
  (year, ((n - firstMonday year) / 7).toNat + 1)

/-- The date of a weekday in a week of a year, as `isoWeek` counts them. -/
def ofIsoWeek? (year : Int) (week weekday : Nat) : Option Date :=
  if week = 0 ∨ firstMonday (year + 1) ≤ firstMonday year + 7 * ((week : Int) - 1) then none
  else ofDayNumber? year (firstMonday year + 7 * ((week : Int) - 1) + weekday)

/-- The date of a weekday in a week of a year, as `weekFrom` counts them. -/
def ofWeek? (firstDay : Nat) (year : Int) (week weekday : Nat) : Option Date :=
  if 53 < week then none
  else
    let newYear := (yearStart year % 7).toNat
    -- The days from new year to the first start of a week.
    let lead := (firstDay + 7 - newYear) % 7
    let offset : Int := lead + 7 * ((week : Int) - 1) + ((weekday + 7 - firstDay) % 7 : Nat)
    if offset < 0 then none
    else
      let ordinal := offset.toNat + 1
      if ordinal ≤ (if isLeapYear year then 366 else 365) then ofOrdinal? year ordinal else none

/-- The text of a year: four digits, and a sign as well outside the years 0 to 9999. -/
def yearText (year : Int) : List Char :=
  if 0 ≤ year ∧ year ≤ 9999 then paddedDigits 4 year.toNat
  else (if year < 0 then '-' else '+') :: paddedDigits 4 year.natAbs

/-- The text of a date: year, month and day with hyphens. -/
def iso (d : Date) : List Char :=
  yearText d.year ++ '-' :: (paddedDigits 2 d.month ++ '-' :: paddedDigits 2 d.day)

/-- The text of a date as a string. -/
def isoString (d : Date) : String := String.ofList d.iso

end Date

end Dossier
