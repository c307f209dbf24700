import Dossier.Number.Shortest

/-!
# Texts of floating-point numbers

All texts have the shortest digits that tell the number apart. A layout says how they are set.

* `positional` : always with all places, however large or small the number is;
* `scientific` : with a power of ten when the number is large or small, as JSON has it;
* `bitsText` : the bits of a number in hexadecimal.
-/

namespace Dossier

/-- The choices of a layout. -/
structure FloatLayout where
  /-- The largest number of digits in front of the point that is written without a power of ten. -/
  maxWhole : Option Nat
  /-- The largest number of zeros after the point that is written without a power of ten. -/
  maxZeros : Option Nat
  /-- Whether a whole number ends in a point and a zero. -/
  pointZero : Bool

/-- All places, and no point in a whole number. -/
def FloatLayout.positional : FloatLayout := ⟨none, none, false⟩

/-- All places, and a point in every number. -/
def FloatLayout.pointed : FloatLayout := ⟨none, none, true⟩

/-- Powers of ten from 10^16 on and below 10^-5, and a point in every number without one. -/
def FloatLayout.scientific : FloatLayout := ⟨some 16, some 4, true⟩

/-- Whether a count is within a bound. -/
private def within (bound : Option Nat) (n : Nat) : Bool :=
  match bound with
  | none => true
  | some b => decide (n ≤ b)

/-- The text of a positive number given by its digits and their power of ten. -/
def FloatLayout.write (l : FloatLayout) (digits : List Char) (exponent : Int) : List Char :=
  let point := (digits.length : Int) + exponent
  if 0 ≤ exponent ∧ within l.maxWhole point.toNat then
    digits ++ List.replicate exponent.toNat '0' ++ (if l.pointZero then ['.', '0'] else [])
  else if exponent < 0 ∧ 0 < point ∧ within l.maxWhole point.toNat then
    digits.take point.toNat ++ '.' :: digits.drop point.toNat
  else if exponent < 0 ∧ point ≤ 0 ∧ within l.maxZeros (-point).toNat then
    '0' :: '.' :: (List.replicate (-point).toNat '0' ++ digits)
  else
    let power := 'e' :: intText (point - 1)
    match digits with
    | [d] => d :: power
    | d :: more => d :: '.' :: more ++ power
    | [] => power

/-- The text of a finite number. -/
def FloatLayout.finite (l : FloatLayout) (x : Float) : List Char :=
  let bits := x.toBits.toNat
  let magnitude := bits % twoTo 63
  let sign := if bits < twoTo 63 then [] else ['-']
  if magnitude = 0 then sign ++ (if l.pointZero then ['0', '.', '0'] else ['0'])
  else
    let (n, e) := shortestDigits (Binary.ofBits magnitude)
    sign ++ l.write (digitsOf n) e

/-- The text of a number in all places. -/
def FloatLayout.text (l : FloatLayout) (x : Float) : List Char :=
  if x.isNaN then ['N', 'a', 'N']
  else if x.isInf then (if x < 0 then ['-', 'i', 'n', 'f'] else ['i', 'n', 'f'])
  else l.finite x

/-- The bits of a number as sixteen hexadecimal digits. -/
def bitsText (x : Float) : String := String.ofList (hexDigitsOf 16 x.toBits.toNat)

end Dossier
