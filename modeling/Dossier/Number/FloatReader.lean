import Dossier.Number.Digits

/-!
# Reading floating-point numbers

* `decimalFloat` : the number nearest to a decimal one;
* `readFloat?` : the number of a text.
-/

namespace Dossier

/-- The number nearest to `significand * 10 ^ exponent`. What is beyond all finite numbers is
infinite, and what is far below all positive ones is zero. -/
def decimalFloat (significand : Nat) (exponent : Int) : Float :=
  let point := (digitsOf significand).length + exponent
  if significand = 0 ∨ point < -400 then 0
  else if 400 < point then 1 / 0
  else Float.ofScientific significand (exponent < 0) exponent.natAbs

/-- The text without a sign in front, and whether the sign is a minus. -/
def splitSign (s : List Char) : Bool × List Char :=
  match s with
  | '+' :: rest => (false, rest)
  | '-' :: rest => (true, rest)
  | _ => (false, s)

/-- The exponent that is all of a text, or zero if the text is empty. -/
private def readPower? (s : List Char) : Option Int :=
  match s with
  | [] => some 0
  | e :: rest =>
    let (negative, digits) := splitSign rest
    if (e == 'e' || e == 'E') && !digits.isEmpty && digits.all Char.isDigit then
      some (if negative then -(valueOf digits : Int) else valueOf digits)
    else none

/-- The number of a text without a sign: digits with a point before, between or after them or
without one, and an exponent or none. -/
private def readDecimal? (s : List Char) : Option Float :=
  let whole := s.takeWhile Char.isDigit
  let (fraction, rest) :=
    match s.drop whole.length with
    | '.' :: rest => (rest.takeWhile Char.isDigit, rest.dropWhile Char.isDigit)
    | rest => ([], rest)
  if whole.isEmpty && fraction.isEmpty then none
  else (readPower? rest).map fun power =>
    decimalFloat (valueOf (whole ++ fraction)) (power - fraction.length)

/-- The number of a text: a decimal number, or a word for infinity or for no number. -/
def readFloat? (s : List Char) : Option Float :=
  let (negative, s) := splitSign s
  let word := s.map Char.toLower
  let magnitude :=
    if word = "inf".toList ∨ word = "infinity".toList then some (1 / 0)
    else if word = "nan".toList then some (0 / 0)
    else readDecimal? s
  magnitude.map fun x => if negative then -x else x

end Dossier
