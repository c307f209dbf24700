import Dossier.Calendar.Format

/-!
# Reading dates by a format

The fields that a text holds are gathered first; a date is made of the first group of fields that
determines one, and every other field has to agree with it.

* `Fields` : the fields that were read, each with one value;
* `readItems` : reads a text by the parts of a format;
* `Fields.date?` : the date of the fields;
* `readDate?` : the date of a text under a format.
-/

namespace Dossier.Calendar

/-- The fields that were read. -/
abbrev Fields := List (Field × Int)

/-- The least and the largest value of a field. -/
def Field.bounds : Field → Int × Int
  | .year | .isoYear => (-2147483648, 2147483647)
  | .century | .isoCentury => (0, 2147483647)
  | .yearOfCentury | .isoYearOfCentury => (0, 99)
  | .quarter => (1, 4)
  | .month => (1, 12)
  | .day => (1, 31)
  | .weekFromSunday | .weekFromMonday => (0, 53)
  | .isoWeek => (1, 53)
  | .weekday => (0, 6)
  | .ordinal => (1, 366)
  | .hourOfHalf => (1, 12)
  | .half => (0, 1)
  | .minute => (0, 59)
  | .second => (0, 60)
  | .nanosecond => (0, 999999999)
  | .timestamp => (-9223372036854775808, 9223372036854775807)
  | .zone => (-2147483648, 2147483647)

/-- Adds a field. It has to lie in its bounds and to agree with a value that was read before. -/
def Fields.put? (fs : Fields) (field : Field) (value : Int) : Option Fields :=
  let (lo, hi) := field.bounds
  if lo ≤ value ∧ value ≤ hi then
    match fs.lookup field with
    | some old => if old = value then some fs else none
    | none => some ((field, value) :: fs)
  else none

/-- Reads a number of one digit at least and so many at most. -/
def readDigits (width : Nat) (s : List Char) : Option (Int × List Char) :=
  let digits := (s.take width).takeWhile Char.isDigit
  if digits.isEmpty then none
  else if valueOf digits < twoTo 63 then some ((valueOf digits : Int), s.drop digits.length)
  else none

/-- Reads a number that may have a sign. With a sign it may have any number of digits. -/
def readSigned (width : Nat) (s : List Char) : Option (Int × List Char) :=
  match s with
  | '-' :: rest => (readDigits rest.length rest).map fun (n, rest) => (-n, rest)
  | '+' :: rest => readDigits rest.length rest
  | _ => readDigits width s

/-- The rest of a text after a word, without regard to case. -/
def afterWord? (word : String) (s : List Char) : Option (List Char) :=
  let n := word.toList.length
  if (s.take n).map Char.toLower = word.toList ∧ n ≤ s.length then some (s.drop n) else none

def monthNames : List (String × String) :=
  [("jan", "uary"), ("feb", "ruary"), ("mar", "ch"), ("apr", "il"), ("may", ""), ("jun", "e"),
    ("jul", "y"), ("aug", "ust"), ("sep", "tember"), ("oct", "ober"), ("nov", "ember"),
    ("dec", "ember")]

def weekdayNames : List (String × String) :=
  [("mon", "day"), ("tue", "sday"), ("wed", "nesday"), ("thu", "rsday"), ("fri", "day"),
    ("sat", "urday"), ("sun", "day")]

/-- Reads one of several names by its first letters, and by all of them if it is written out and
may be. -/
def readName (names : List (String × String)) (long : Bool) (s : List Char) :
    Option (Nat × List Char) :=
  names.zipIdx.findSome? fun ((name, ending), i) =>
    (afterWord? name s).map fun rest =>
      if long then (i, (afterWord? ending rest).getD rest) else (i, rest)

/-- Reads the digits of a fraction of a second, of which nine count. -/
def readFraction (s : List Char) : Option (Int × List Char) :=
  let digits := s.takeWhile Char.isDigit
  if digits.isEmpty then none
  else
    let kept := digits.take 9
    some (((valueOf kept * tenTo (9 - kept.length) : Nat) : Int), s.drop digits.length)

/-- Reads two digits. -/
def readPair (s : List Char) : Option (Nat × List Char) :=
  match s with
  | a :: b :: rest =>
    if a.isDigit && b.isDigit then some (10 * digitValue a + digitValue b, rest) else none
  | _ => none

/-- Reads a zone offset in seconds: a sign, hours and minutes, with colons or blanks between. -/
def readZone (minutesOptional : Bool) (s : List Char) : Option (Int × List Char) :=
  let signed :=
    match s with
    | '+' :: rest => some (1, rest)
    | '-' :: rest => some (-1, rest)
    | '−' :: rest => some (-1, rest)
    | _ => none
  signed.bind fun (sign, rest) =>
    (readPair rest).bind fun (hours, rest) =>
      let rest := rest.dropWhile fun c => c == ':' || Text.isBlank c
      match rest with
      | [] => if minutesOptional then some (sign * (hours * 3600 : Int), []) else none
      | _ =>
        (readPair rest).bind fun (minutes, rest) =>
          if minutes < 60 then some (sign * (hours * 3600 + minutes * 60 : Int), rest) else none

/-- Puts a field that was read. -/
def putRead (fs : Fields) (field : Field) (read : Option (Int × List Char)) :
    Option (Fields × List Char) :=
  read.bind fun (value, rest) => (fs.put? field value).map fun fs => (fs, rest)

/-- Reads one part of a format. Blanks before a number mean nothing. -/
def readItem (fs : Fields) (item : FormatItem) (s : List Char) : Option (Fields × List Char) :=
  match item with
  | .literal text => if text.isPrefixOf s then some (fs, s.drop text.length) else none
  | .blanks => some (fs, Text.trimStart s)
  | .number field width signed =>
    let s := Text.trimStart s
    let width := if field = .timestamp then s.length else width
    putRead fs field (if signed then readSigned width s else readDigits width s)
  | .hour =>
    (readDigits 2 (Text.trimStart s)).bind fun (hour, rest) =>
      if 23 < hour then none
      else
        let (half, inHalf) := if hour < 12 then (0, hour) else (1, hour - 12)
        (fs.put? .half half).bind fun fs =>
          (fs.put? .hourOfHalf (if inHalf = 0 then 12 else inHalf)).map fun fs => (fs, rest)
  | .weekdayFromSunday =>
    putRead fs .weekday <| (readDigits 1 (Text.trimStart s)).bind fun (n, rest) =>
      if n ≤ 6 then some ((n + 6) % 7, rest) else none
  | .weekdayFromMonday =>
    putRead fs .weekday <| (readDigits 1 (Text.trimStart s)).bind fun (n, rest) =>
      if 1 ≤ n ∧ n ≤ 7 then some (n - 1, rest) else none
  | .monthName long =>
    putRead fs .month ((readName monthNames long s).map fun (i, rest) => ((i : Int) + 1, rest))
  | .weekdayName long =>
    putRead fs .weekday ((readName weekdayNames long s).map fun (i, rest) => ((i : Int), rest))
  | .halfName =>
    match afterWord? "am" s with
    | some rest => (fs.put? .half 0).map fun fs => (fs, rest)
    | none =>
      match afterWord? "pm" s with
      | some rest => (fs.put? .half 1).map fun fs => (fs, rest)
      | none => none
  | .fraction =>
    match s with
    | '.' :: rest => putRead fs .nanosecond (readFraction rest)
    | _ => some (fs, s)
  | .fractionDigits places =>
    putRead fs .nanosecond <|
      let digits := (s.take places).takeWhile Char.isDigit
      if digits.length = places then
        some (((valueOf digits * tenTo (9 - places) : Nat) : Int), s.drop places)
      else none
  | .zoneName => some (fs, s.dropWhile fun c => !Text.isBlank c)
  | .zoneOffset minutesOptional => putRead fs .zone (readZone minutesOptional (Text.trimStart s))

/-- Reads the parts of a format one after the other. -/
def readItems (fs : Fields) : List FormatItem → List Char → Option (Fields × List Char)
  | [], s => some (fs, s)
  | item :: items, s => (readItem fs item s).bind fun (fs, rest) => readItems fs items rest

/-- A year out of itself, its century and its place in the century. The place alone stands for a
year from 1970 to 2069. Fails if the fields disagree or do not suffice. -/
def year? (year century inCentury : Option Int) : Option (Option Int) :=
  match year, century, inCentury with
  | year, none, none => some year
  | some y, century, inCentury =>
    if y < 0 then none
    else if century.getD (y / 100) = y / 100 ∧ inCentury.getD (y % 100) = y % 100 then some (some y)
    else none
  | none, some c, some r => some (some (100 * c + r))
  | none, none, some r => some (some (r + if r < 70 then 2000 else 1900))
  | none, some _, none => none

namespace Fields

def get? (fs : Fields) (field : Field) : Option Int := fs.lookup field

/-- Whether a field has a value, if it was read. -/
def agrees (fs : Fields) (field : Field) (value : Option Int) : Bool :=
  match fs.get? field with
  | none => true
  | some v => value == some v

/-- The century of a year and its place in it, for years that have them. -/
def centuryOf (year : Int) : Option Int := if 0 ≤ year then some (year / 100) else none
def placeOf (year : Int) : Option Int := if 0 ≤ year then some (year % 100) else none

/-- Whether the fields of year, month and day agree with a date. -/
def agreesOnDay (fs : Fields) (d : Date) : Bool :=
  fs.agrees .year (some d.year) && fs.agrees .century (centuryOf d.year) &&
    fs.agrees .yearOfCentury (placeOf d.year) && fs.agrees .month (some d.month) &&
    fs.agrees .day (some d.day)

/-- Whether the fields of week and weekday agree with a date. -/
def agreesOnWeek (fs : Fields) (d : Date) : Bool :=
  let (year, week) := d.isoWeek
  fs.agrees .isoYear (some year) && fs.agrees .isoCentury (centuryOf year) &&
    fs.agrees .isoYearOfCentury (placeOf year) && fs.agrees .isoWeek (some (week : Int)) &&
    fs.agrees .weekday (some (d.weekday : Int))

/-- Whether the fields of the place in the year agree with a date. -/
def agreesOnPlace (fs : Fields) (d : Date) : Bool :=
  fs.agrees .ordinal (some (d.ordinal : Int)) &&
    fs.agrees .weekFromSunday (some (d.weekFrom 6)) &&
    fs.agrees .weekFromMonday (some (d.weekFrom 0)) &&
    fs.agrees .quarter (some (((d.month - 1) / 3 + 1 : Nat) : Int))

/-- The date that the first sufficient group of fields determines. -/
def determined? (fs : Fields) (year isoYear : Option Int) : Option Date :=
  match year, fs.get? .month, fs.get? .day with
  | some y, some m, some d => Date.of? y m.toNat d.toNat
  | _, _, _ =>
    match year, fs.get? .ordinal with
    | some y, some n => Date.ofOrdinal? y n.toNat
    | _, _ =>
      match year, fs.get? .weekFromSunday, fs.get? .weekday with
      | some y, some w, some d => Date.ofWeek? 6 y w.toNat d.toNat
      | _, _, _ =>
        match year, fs.get? .weekFromMonday, fs.get? .weekday with
        | some y, some w, some d => Date.ofWeek? 0 y w.toNat d.toNat
        | _, _, _ =>
          match isoYear, fs.get? .isoWeek, fs.get? .weekday with
          | some y, some w, some d => Date.ofIsoWeek? y w.toNat d.toNat
          | _, _, _ => none

/-- The date of the fields, if they determine one and agree with it. -/
def date? (fs : Fields) : Option Date :=
  match year? (fs.get? .year) (fs.get? .century) (fs.get? .yearOfCentury),
    year? (fs.get? .isoYear) (fs.get? .isoCentury) (fs.get? .isoYearOfCentury) with
  | some year, some isoYear =>
    match fs.determined? year isoYear with
    | some d =>
      if fs.agreesOnDay d && fs.agreesOnWeek d && fs.agreesOnPlace d then some d else none
    | none => none
  | _, _ => none

end Fields

/-- The date of a text under a format. -/
def readDate? (format text : List Char) : Option Date :=
  (readFormat format).bind fun items =>
    (readItems [] items text).bind fun (fs, rest) => if rest.isEmpty then fs.date? else none

/-- The parts of a date in JSON texts: blanks may stand around the hyphens. -/
def jsonDateItems : List FormatItem :=
  [yearItem, .blanks, .literal ['-'], monthItem, .blanks, .literal ['-'], dayItem]

/-- The date of a JSON text. -/
def readJsonDate? (text : List Char) : Option Date :=
  (readItems [] (jsonDateItems ++ [.blanks]) text).bind fun (fs, rest) =>
    if rest.isEmpty then fs.date? else none

end Dossier.Calendar
