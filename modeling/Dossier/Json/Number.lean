import Dossier.Json.Basic
import Dossier.Number.Digits

/-!
# Numbers of JSON texts

A number is read into a significand of 64 bits and a power of ten. Digits that do not fit into the
significand are passed over. The two are joined by one multiplication or division, so that a
number of many digits may come out next to the nearest one.

* `scaled?` : the number of a significand and a power of ten, unless it is too large;
* `readNumber` : a number at the start of a text.
-/

namespace Dossier.Json

/-- The largest significand. -/
def maxSignificand : Nat := twoTo 64 - 1

/-- Appends digits to a significand while it has room, and counts those appended. -/
def fillSignificand (significand : Nat) : List Char → Nat × Nat
  | [] => (significand, 0)
  | c :: rest =>
    let longer := 10 * significand + digitValue c
    if longer ≤ maxSignificand then
      let (filled, count) := fillSignificand longer rest
      (filled, count + 1)
    else (significand, 0)

/-- A power of ten as a floating-point number. -/
def powerOfTen (k : Nat) : Float := Float.ofScientific 1 false k

/-- Divides by large powers of ten until the rest of the division is within range. -/
def divideLarge : Nat → Float → Nat → Float
  | 0, x, _ => x
  | fuel + 1, x, k =>
    if k ≤ 308 then x / powerOfTen k
    else if x == 0 then x
    else divideLarge fuel (x / powerOfTen 308) (k - 308)

/-- The number `significand * 10 ^ exponent`, if it is not too large. -/
def scaled? (negative : Bool) (significand : Nat) (exponent : Int) : Option Float :=
  let x := Float.ofNat significand
  let magnitude :=
    if exponent < 0 then some (divideLarge ((-exponent).toNat / 308 + 1) x (-exponent).toNat)
    else if exponent ≤ 308 then
      let y := x * powerOfTen exponent.toNat
      if y.isInf then none else some y
    else if x == 0 then some x
    else none
  magnitude.map fun y => if negative then -y else y

/-- The largest exponent that is read; larger ones only say "zero" or "too large". -/
def maxExponent : Nat := twoTo 31 - 1

/-- The digits at the start of a text and the text after them. -/
def spanDigits (s : List Char) : List Char × List Char := s.span Char.isDigit

/-- Reads an exponent whose letter has been passed, and makes the number. -/
def readExponent (negative : Bool) (significand : Nat) (exponent : Int) (s : List Char) :
    Option (Json × List Char) :=
  let (down, s) :=
    match s with
    | '+' :: rest => (false, rest)
    | '-' :: rest => (true, rest)
    | _ => (false, s)
  let (digits, rest) := spanDigits s
  if digits.isEmpty then none
  else
    let power := valueOf digits
    let number :=
      if power > maxExponent then
        if significand = 0 ∨ down then some (if negative then (-0.0 : Float) else 0.0) else none
      else scaled? negative significand (if down then exponent - power else exponent + power)
    number.map fun x => (float x, rest)

/-- Reads what follows a significand and makes the number. -/
def readScale (negative : Bool) (significand : Nat) (exponent : Int) (s : List Char) :
    Option (Json × List Char) :=
  match s with
  | 'e' :: rest => readExponent negative significand exponent rest
  | 'E' :: rest => readExponent negative significand exponent rest
  | _ => (scaled? negative significand exponent).map fun x => (float x, s)

/-- The value of a number without point and exponent. Zero with a sign, and what is beyond 64 bits,
is a floating-point number. -/
def integer? (negative : Bool) (significand dropped : Nat) : Option Json :=
  if dropped ≠ 0 then (scaled? negative significand dropped).map float
  else if !negative then some (int significand)
  else if significand = 0 ∨ twoTo 63 < significand then some (float (-Float.ofNat significand))
  else some (int (-(significand : Int)))

/-- Reads a number whose sign has been passed. -/
def readUnsigned (negative : Bool) (s : List Char) : Option (Json × List Char) :=
  let (whole, rest) := spanDigits s
  if whole.isEmpty || (whole.head? == some '0' && whole.length != 1) then none
  else
    let (significand, used) := fillSignificand 0 whole
    let dropped := whole.length - used
    match rest with
    | '.' :: rest =>
      let (fraction, rest) := spanDigits rest
      if fraction.isEmpty then none
      else
        let (significand, used) := fillSignificand significand fraction
        readScale negative significand ((dropped : Int) - used) rest
    | 'e' :: _ => readScale negative significand dropped rest
    | 'E' :: _ => readScale negative significand dropped rest
    | _ => (integer? negative significand dropped).map fun j => (j, rest)

/-- Reads a number at the start of a text. -/
def readNumber (s : List Char) : Option (Json × List Char) :=
  match s with
  | '-' :: rest => readUnsigned true rest
  | _ => readUnsigned false s

end Dossier.Json
