import Dossier.Calendar.Date
import Dossier.Text.Blank

/-!
# Formats of dates and times

A format lists what a text holds: fixed text, blanks, and fields that start with a percent sign.

* `Field` : what a number in the text can stand for;
* `FormatItem` : the parts of a format;
* `readFormat` : the parts of a format text, unless it has an unknown field.
-/

namespace Dossier.Calendar

/-- What a number in a text can stand for. -/
inductive Field where
  | year
  | century
  | yearOfCentury
  | isoYear
  | isoCentury
  | isoYearOfCentury
  | quarter
  | month
  | day
  | weekFromSunday
  | weekFromMonday
  | isoWeek
  | weekday
  | ordinal
  | hourOfHalf
  | half
  | minute
  | second
  | nanosecond
  | timestamp
  | zone
deriving DecidableEq, Repr

/-- A part of a format. -/
inductive FormatItem where
  /-- Text that has to stand as it is. -/
  | literal (text : List Char)
  /-- Any blanks or none. -/
  | blanks
  /-- A number of at most so many digits, possibly with a sign. -/
  | number (field : Field) (width : Nat) (signed : Bool)
  | hour
  /-- The number of a weekday counted from Sunday as 0. -/
  | weekdayFromSunday
  /-- The number of a weekday counted from Monday as 1. -/
  | weekdayFromMonday
  | monthName (long : Bool)
  | weekdayName (long : Bool)
  | halfName
  /-- A point with a fraction of a second, or nothing. -/
  | fraction
  /-- A fraction of a second of exactly so many digits, without a point. -/
  | fractionDigits (places : Nat)
  | zoneName
  /-- A zone offset, possibly without minutes. -/
  | zoneOffset (minutesOptional : Bool)
deriving DecidableEq, Repr

/-- The number fields of the letters that stand for one number. -/
def numberItem? (letter : Char) : Option FormatItem :=
  match letter with
  | 'Y' => some (.number .year 4 true)
  | 'C' => some (.number .century 2 false)
  | 'y' => some (.number .yearOfCentury 2 false)
  | 'G' => some (.number .isoYear 4 true)
  | 'g' => some (.number .isoYearOfCentury 2 false)
  | 'q' => some (.number .quarter 1 false)
  | 'm' => some (.number .month 2 false)
  | 'd' | 'e' => some (.number .day 2 false)
  | 'w' => some .weekdayFromSunday
  | 'u' => some .weekdayFromMonday
  | 'U' => some (.number .weekFromSunday 2 false)
  | 'W' => some (.number .weekFromMonday 2 false)
  | 'V' => some (.number .isoWeek 2 false)
  | 'j' => some (.number .ordinal 3 false)
  | 'H' | 'k' => some .hour
  | 'I' | 'l' => some (.number .hourOfHalf 2 false)
  | 'M' => some (.number .minute 2 false)
  | 'S' => some (.number .second 2 false)
  | 'f' => some (.number .nanosecond 9 false)
  | 's' => some (.number .timestamp 0 false)
  | _ => none

def dayItem : FormatItem := .number .day 2 false
def monthItem : FormatItem := .number .month 2 false
def yearItem : FormatItem := .number .year 4 true
def minuteItem : FormatItem := .number .minute 2 false
def secondItem : FormatItem := .number .second 2 false

/-- Hours, minutes and seconds with colons. -/
def clockItems : List FormatItem :=
  [.hour, .literal [':'], minuteItem, .literal [':'], secondItem]

/-- The parts that the other letters stand for. -/
def letterItems? (letter : Char) : Option (List FormatItem) :=
  match letter with
  | 'b' | 'h' => some [.monthName false]
  | 'B' => some [.monthName true]
  | 'a' => some [.weekdayName false]
  | 'A' => some [.weekdayName true]
  | 'p' | 'P' => some [.halfName]
  | 'D' | 'x' =>
    some [monthItem, .literal ['/'], dayItem, .literal ['/'], .number .yearOfCentury 2 false]
  | 'F' => some [yearItem, .literal ['-'], monthItem, .literal ['-'], dayItem]
  | 'v' => some [dayItem, .literal ['-'], .monthName false, .literal ['-'], yearItem]
  | 'R' => some [.hour, .literal [':'], minuteItem]
  | 'T' | 'X' => some clockItems
  | 'r' =>
    some [.number .hourOfHalf 2 false, .literal [':'], minuteItem, .literal [':'], secondItem,
      .blanks, .halfName]
  | 'c' =>
    some ([.weekdayName false, .blanks, .monthName false, .blanks, dayItem, .blanks] ++
      clockItems ++ [.blanks, yearItem])
  | '+' =>
    some ([yearItem, .literal ['-'], monthItem, .literal ['-'], dayItem, .literal ['T']] ++
      clockItems ++ [.fraction, .zoneOffset false])
  | 'Z' => some [.zoneName]
  | 'z' => some [.zoneOffset false]
  | 'n' | 't' => some [.blanks]
  | '%' => some [.literal ['%']]
  | _ => none

/-- Reads a field whose percent sign has been passed. A sign that sets how numbers are filled up
stands before a number only, and makes no difference for reading. -/
def readField (s : List Char) : Option (List FormatItem × List Char) :=
  match s with
  | '-' :: c :: rest | '0' :: c :: rest | '_' :: c :: rest =>
    (numberItem? c).map fun item => ([item], rest)
  | '#' :: 'z' :: rest => some ([.zoneOffset true], rest)
  | ':' :: ':' :: ':' :: 'z' :: rest => some ([.zoneOffset true], rest)
  | ':' :: ':' :: 'z' :: rest => some ([.zoneOffset false], rest)
  | ':' :: 'z' :: rest => some ([.zoneOffset false], rest)
  | '.' :: 'f' :: rest => some ([.fraction], rest)
  | '.' :: '3' :: 'f' :: rest | '.' :: '6' :: 'f' :: rest | '.' :: '9' :: 'f' :: rest =>
    some ([.fraction], rest)
  | '3' :: 'f' :: rest => some ([.fractionDigits 3], rest)
  | '6' :: 'f' :: rest => some ([.fractionDigits 6], rest)
  | '9' :: 'f' :: rest => some ([.fractionDigits 9], rest)
  | c :: rest =>
    match numberItem? c with
    | some item => some ([item], rest)
    | none => (letterItems? c).map fun items => (items, rest)
  | [] => none

/-- The parts of a format text. The bound is on the number of characters. -/
def readFormatLoop : Nat → List Char → Option (List FormatItem)
  | 0, _ => none
  | _ + 1, [] => some []
  | bound + 1, c :: rest =>
    if c = '%' then
      match readField rest with
      | some (items, rest) => (readFormatLoop bound rest).map fun others => items ++ others
      | none => none
    else if Text.isBlank c then
      (readFormatLoop bound rest).map fun others => .blanks :: others
    else (readFormatLoop bound rest).map fun others => .literal [c] :: others

/-- The parts of a format text, unless it has an unknown field. -/
def readFormat (s : List Char) : Option (List FormatItem) := readFormatLoop (s.length + 1) s

end Dossier.Calendar
