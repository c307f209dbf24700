import Dossier.Number.Shortest

/-!
# Order and whole part of floating-point numbers

* `lesser`, `greater` : the lesser and the greater of two numbers;
* `totalKey` : the order that tells all numbers apart;
* `wholePart` : a number without what stands after its point.
-/

namespace Dossier

/-- The lesser of two numbers; the first one if they are equal. -/
def lesser (a b : Float) : Float := if b < a then b else a

/-- The greater of two numbers; the first one if they are equal. -/
def greater (a b : Float) : Float := if a < b then b else a

/-- A key in the order of all floating-point numbers, from the negative ones with the largest
magnitude on. Zero with a minus sign stands right before zero. -/
def totalKey (x : Float) : Int :=
  let bits := x.toBits.toNat
  if bits < twoTo 63 then (bits : Int) else (twoTo 63 : Int) - 1 - (bits : Int)

/-- The whole part of a number, rounded towards zero. An infinite number counts as the power of two
beyond all finite ones. -/
def wholePart (x : Float) : Int :=
  let bits := x.toBits.toNat
  let b := Binary.ofBits (bits % twoTo 63)
  let magnitude : Int := (b.significand * twoTo b.power.toNat / twoTo (-b.power).toNat : Nat)
  if bits < twoTo 63 then magnitude else -magnitude

/-- The integer that a number is, if it is one. -/
def integral? (x : Float) : Option Int :=
  if x.isFinite && Float.ofInt (wholePart x) == x then some (wholePart x) else none

end Dossier
