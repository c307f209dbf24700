import Dossier.Number.Digits

/-!
# The shortest digits of a floating-point number

A finite number `m * 2 ^ q` is told apart from its neighbours by every decimal number in the
interval of reals that round to it. Of these the one with the fewest digits is chosen, and of
several the one that is nearest.

* `Binary` : a positive number as significand and power of two;
* `shortestDigits` : its shortest digits with their power of ten.
-/

namespace Dossier

/-- A positive number `significand * 2 ^ power`. The number below may be nearer than the number
above. -/
structure Binary where
  significand : Nat
  power : Int
  closeBelow : Bool

/-- The finite positive number with given bits, without the sign bit. -/
def Binary.ofBits (bits : Nat) : Binary :=
  let exponent : Nat := bits / twoTo 52 % twoTo 11
  let fraction : Nat := bits % twoTo 52
  if exponent = 0 then ⟨fraction, -1074, false⟩
  else ⟨twoTo 52 + fraction, (exponent : Int) - 1075, fraction = 0 ∧ 1 < exponent⟩

/-- An interval on a decimal grid: a value and the bounds of what rounds to it, over a common
denominator. -/
structure Interval where
  low : Nat
  value : Nat
  high : Nat
  denominator : Nat
  /-- Whether the bounds themselves round to the value. -/
  closed : Bool

/-- The interval of the reals that round to a number. -/
def Binary.interval (b : Binary) : Interval :=
  let up := twoTo (b.power - 2).toNat
  { low := (4 * b.significand - if b.closeBelow then 1 else 2) * up
    value := 4 * b.significand * up
    high := (4 * b.significand + 2) * up
    denominator := twoTo (2 - b.power).toNat
    closed := b.significand % 2 = 0 }

/-- The interval in units of a power of ten. -/
def Interval.scale (i : Interval) (exponent : Int) : Interval :=
  let up := tenTo (-exponent).toNat
  { i with
    low := i.low * up
    value := i.value * up
    high := i.high * up
    denominator := i.denominator * tenTo exponent.toNat }

/-- Whether a whole number of units lies in the interval. -/
def Interval.contains (i : Interval) (n : Nat) : Bool :=
  let place := n * i.denominator
  if i.closed then decide (i.low ≤ place) && decide (place ≤ i.high)
  else decide (i.low < place) && decide (place < i.high)

/-- The whole number of units in the interval that is nearest to its value, if there is one. A tie
goes to the even number. -/
def Interval.nearest? (i : Interval) : Option Nat :=
  let below := i.value / i.denominator
  let above := below + 1
  let toBelow := i.value - below * i.denominator
  let toAbove := above * i.denominator - i.value
  let preferBelow := decide (toBelow < toAbove) || (toBelow == toAbove && below % 2 == 0)
  match i.contains below, i.contains above with
  | true, true => some (if preferBelow then below else above)
  | true, false => some below
  | false, true => some above
  | false, false => none

/-- How many digits the whole part of a quotient has, or minus the number of zeros after the point
of a quotient below one: the number `k` with `10 ^ (k - 1) ≤ quotient < 10 ^ k`. -/
def magnitude (numerator denominator : Nat) : Int :=
  if denominator ≤ numerator then ((digitsOf (numerator / denominator)).length : Int)
  else
    let zeros := (digitsOf ((denominator - 1) / numerator)).length
    if numerator * tenTo zeros < denominator then -(zeros : Int) else 1 - (zeros : Int)

/-- Tries ever finer grids, from so many digits on. -/
def Interval.search (i : Interval) (top : Int) : Nat → Nat → Nat × Int
  | 0, digits => ((i.scale (top - digits)).nearest?.getD 0, top - digits)
  | fuel + 1, digits =>
    match (i.scale (top - digits)).nearest? with
    | some n => (n, top - digits)
    | none => i.search top fuel (digits + 1)

/-- Takes zeros off the end of a number, counting them in the power of ten. -/
def dropZeros : Nat → Nat → Int → Nat × Int
  | 0, n, e => (n, e)
  | fuel + 1, n, e => if n ≠ 0 ∧ n % 10 = 0 then dropZeros fuel (n / 10) (e + 1) else (n, e)

/-- The shortest digits that tell a positive number apart, with their power of ten. Seventeen
digits always suffice. -/
def shortestDigits (b : Binary) : Nat × Int :=
  let i := b.interval
  let (n, e) := i.search (magnitude i.value i.denominator) 17 1
  dropZeros 17 n e

end Dossier
