import Dossier.Number.Digits

/-!
# Decimal amounts

An amount is a whole number of units of a power of ten. The number of units has 96 bits at most and
the unit has 28 decimal places at most; amounts keep the places that they are written with.

* `Amount` : a decimal number with its places;
* `Amount.read?` : the amount of a text, in which underscores may stand after a digit;
* `Amount.text` : the text of an amount.
-/

namespace Dossier

/-- A decimal number: a sign, a number of units, and the decimal places of a unit. -/
structure Amount where
  negative : Bool
  units : Nat
  places : Nat
deriving DecidableEq, Repr

namespace Amount

/-- The largest number of units. -/
def maxUnits : Nat := twoTo 96 - 1

/-- The largest number of decimal places. -/
def maxPlaces : Nat := 28

/-- An amount; zero has no sign. -/
def make (negative : Bool) (units places : Nat) : Amount := ⟨negative && units != 0, units, places⟩

/-- Rounds digits away that have no room any more, with underscores between them. The first of them
decides: a five and more count up. A number of units that grows too large loses its last digit. -/
def round? (negative : Bool) (units places : Nat) (excess : List Char) : Option Amount :=
  if excess.all fun c => c.isDigit || c == '_' then
    if (excess.find? Char.isDigit).any fun c => 5 ≤ digitValue c then
      if units + 1 ≤ maxUnits then some (make negative (units + 1) places)
      else if places = 0 then none
      else some (make negative ((units + 5) / 10) (places - 1))
    else some (make negative units places)
  else none

/-- Reads digits, underscores and one point. Digits beyond the places or the units that there is
room for are rounded away after the point, and make the amount too large before it. -/
def readUnits (negative : Bool) (units places : Nat) (afterPoint hasDigit : Bool) :
    List Char → Option Amount
  | [] => if hasDigit then some (make negative units places) else none
  | c :: rest =>
    if afterPoint && places == maxPlaces then round? negative units places (c :: rest)
    else if c.isDigit then
      let longer := 10 * units + digitValue c
      if longer ≤ maxUnits then
        readUnits negative longer (if afterPoint then places + 1 else places) afterPoint true rest
      else if afterPoint then round? negative units places (c :: rest)
      else none
    else if c = '.' ∧ !afterPoint then readUnits negative units places true hasDigit rest
    else if c = '_' ∧ hasDigit then readUnits negative units places afterPoint true rest
    else none

/-- The amount of a text without a power of ten. -/
def readPlain? (s : List Char) : Option Amount :=
  match s with
  | '-' :: rest => readUnits true 0 0 false false rest
  | '+' :: rest => readUnits false 0 0 false false rest
  | _ => readUnits false 0 0 false false s

/-- The number of a row of digits that may have a plus sign, if it has 32 bits at most. -/
def readPower? (s : List Char) : Option Nat :=
  let digits :=
    match s with
    | '+' :: rest => rest
    | _ => s
  if digits.isEmpty || !digits.all Char.isDigit || twoTo 32 ≤ valueOf digits then none
  else some (valueOf digits)

/-- An amount times a power of ten. Places are used up first. -/
def shiftUp? (a : Amount) (power : Nat) : Option Amount :=
  if power ≤ a.places then some (make a.negative a.units (a.places - power))
  else if power - a.places ≤ 200 then
    let units := a.units * tenTo (power - a.places)
    if units ≤ maxUnits then some (make a.negative units 0) else none
  else if a.units = 0 then some (make false 0 0)
  else none

/-- An amount divided by a power of ten. -/
def shiftDown? (a : Amount) (power : Nat) : Option Amount :=
  if a.places + power ≤ maxPlaces then some (make a.negative a.units (a.places + power)) else none

/-- The amount of a text, which may end in a power of ten. -/
def read? (s : List Char) : Option Amount :=
  let base := s.takeWhile fun c => c != 'e' && c != 'E'
  match s.drop base.length with
  | [] => readPlain? s
  | _ :: power =>
    (readPlain? base).bind fun a =>
      match power with
      | '-' :: digits => (readPower? digits).bind a.shiftDown?
      | _ => (readPower? power).bind a.shiftUp?

/-- The text of an amount, with all its places. -/
def text (a : Amount) : List Char :=
  let digits := paddedDigits (a.places + 1) a.units
  let whole := digits.take (digits.length - a.places)
  let fraction := digits.drop (digits.length - a.places)
  (if a.negative then ['-'] else []) ++ whole ++ (if a.places = 0 then [] else '.' :: fraction)

end Amount

end Dossier
