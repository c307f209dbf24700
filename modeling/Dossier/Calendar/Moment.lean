import Dossier.Calendar.Reader

/-!
# Points in time with a zone

* `Moment` : a date and a time of day with the offset of its zone;
* `Moment.read?` and `Moment.text` : the texts of JSON documents.
-/

namespace Dossier

/-- A date and a time of day at an offset from universal time. -/
structure Moment where
  date : Date
  hour : Nat
  minute : Nat
  /-- A leap second has the number 60. -/
  second : Nat
  nanosecond : Nat
  /-- The offset of the zone in seconds. -/
  zone : Int
deriving DecidableEq

namespace Moment

open Calendar

/-- The parts of a time of day. -/
def clock : List FormatItem :=
  [.hour, .blanks, .literal [':'], minuteItem, .blanks, .literal [':'], secondItem, .fraction,
    .blanks]

/-- Reads a zone: universal time by its letter or name, or an offset. -/
def readZoneOrZulu (s : List Char) : Option (Int × List Char) :=
  match afterWord? "utc" s with
  | some rest => some (0, rest)
  | none =>
    match s with
    | 'Z' :: rest => some (0, rest)
    | 'z' :: rest => some (0, rest)
    | _ => readZone false s

/-- Reads what separates a date from the time of day. -/
def afterSeparator? (s : List Char) : Option (List Char) :=
  match s with
  | 'T' :: rest => some rest
  | 't' :: rest => some rest
  | ' ' :: rest => some rest
  | _ => none

/-- The date of a moment in universal time, if there is one. A leap second belongs to the second
before it. -/
def universalDate? (m : Moment) : Option Date :=
  let seconds : Int := (3600 * m.hour + 60 * m.minute + min m.second 59 : Nat)
  Date.ofDayNumber? m.date.year (m.date.dayNumber + (seconds - m.zone) / 86400)

/-- The moment of the fields. Offsets are smaller than a day, and the moment has a date in universal
time too. -/
def ofFields? (fs : Fields) (zone : Int) : Option Moment :=
  match fs.date?, fs.get? .half, fs.get? .hourOfHalf, fs.get? .minute with
  | some date, some half, some hour, some minute =>
    let m : Moment :=
      { date, hour := (hour % 12 + 12 * half).toNat, minute := minute.toNat,
        second := ((fs.get? .second).getD 0).toNat,
        nanosecond := ((fs.get? .nanosecond).getD 0).toNat, zone }
    if zone.natAbs < 86400 && m.universalDate?.isSome then some m else none
  | _, _, _, _ => none

/-- The moment of a text. -/
def read? (text : List Char) : Option Moment :=
  (readItems [] jsonDateItems text).bind fun (fs, rest) =>
    (afterSeparator? rest).bind fun rest =>
      (readItems fs clock rest).bind fun (fs, rest) =>
        (readZoneOrZulu rest).bind fun (zone, rest) =>
          if (Text.trimStart rest).isEmpty then ofFields? fs zone else none

/-- The text of a fraction of a second, in three, six or nine places. -/
def fractionText (nanosecond : Nat) : List Char :=
  if nanosecond = 0 then []
  else if nanosecond % 1000000 = 0 then '.' :: paddedDigits 3 (nanosecond / 1000000)
  else if nanosecond % 1000 = 0 then '.' :: paddedDigits 6 (nanosecond / 1000)
  else '.' :: paddedDigits 9 nanosecond

/-- The text of a zone. -/
def zoneText (zone : Int) : List Char :=
  if zone = 0 then ['Z']
  else
    let minutes := zone.natAbs / 60
    (if zone < 0 then '-' else '+') ::
      (paddedDigits 2 (minutes / 60) ++ ':' :: paddedDigits 2 (minutes % 60))

/-- The text of a moment. -/
def text (m : Moment) : String :=
  String.ofList (m.date.iso ++ 'T' :: (paddedDigits 2 m.hour ++ ':' :: (paddedDigits 2 m.minute ++
    ':' :: (paddedDigits 2 m.second ++ fractionText m.nanosecond ++ zoneText m.zone))))

end Moment

end Dossier
