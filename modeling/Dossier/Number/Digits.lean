import Dossier.Number.Power

/-!
# Digits of natural numbers

* `digitsOf` : the decimal digits of a number, most significant first;
* `valueOf` : the number that a row of digits stands for;
* `hexDigitsOf` : hexadecimal digits in lower case, of a fixed number of places.
-/

namespace Dossier

/-- The character of a digit. -/
def digitChar (d : Nat) : Char := Char.ofNat (48 + d % 10)

/-- The decimal digits of a number, most significant first, without leading zeros. -/
def digitsOf (n : Nat) : List Char :=
  if n < 10 then [digitChar n] else digitsOf (n / 10) ++ [digitChar (n % 10)]

/-- The value of a digit character. -/
def digitValue (c : Char) : Nat := c.toNat - 48

/-- The number that a row of digits stands for, after digits with a given value. -/
def valueFrom (n : Nat) (s : List Char) : Nat := s.foldl (fun n c => 10 * n + digitValue c) n

/-- The number that a row of digits stands for. -/
def valueOf (s : List Char) : Nat := valueFrom 0 s

/-- The decimal text of an integer. -/
def intText (n : Int) : List Char := if n < 0 then '-' :: digitsOf n.natAbs else digitsOf n.natAbs

/-- The decimal text of a natural number as a string. -/
def natString (n : Nat) : String := String.ofList (digitsOf n)

/-- The digits of a number, filled up with zeros in front to a least width. -/
def paddedDigits (width n : Nat) : List Char :=
  let digits := digitsOf n
  List.replicate (width - digits.length) '0' ++ digits

/-- The character of a hexadecimal digit in lower case. -/
def hexDigitChar (d : Nat) : Char := if d < 10 then Char.ofNat (48 + d) else Char.ofNat (87 + d)

/-- The last hexadecimal digits of a number, in lower case. -/
def hexDigitsOf : Nat → Nat → List Char
  | 0, _ => []
  | places + 1, n => hexDigitsOf places (n / 16) ++ [hexDigitChar (n % 16)]

/-- The hexadecimal digits of a number without leading zeros. -/
def shortHexDigitsOf (n : Nat) : List Char :=
  if n < 16 then [hexDigitChar n] else shortHexDigitsOf (n / 16) ++ [hexDigitChar (n % 16)]

/-- The value of a hexadecimal digit. -/
def hexDigitValue? (c : Char) : Option Nat :=
  if '0' ≤ c ∧ c ≤ '9' then some (c.toNat - 0x30)
  else if 'a' ≤ c ∧ c ≤ 'f' then some (c.toNat - 0x61 + 10)
  else if 'A' ≤ c ∧ c ≤ 'F' then some (c.toNat - 0x41 + 10)
  else none

end Dossier
