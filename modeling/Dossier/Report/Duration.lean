import Dossier.Number.Digits

/-!
# Times

* `durationText` : a length of time in the largest unit that it fills.
-/

namespace Dossier

/-- A number of units with a fraction that counts parts of a unit, a power of ten to one unit. The
fraction has no zeros at its end. -/
def fractionText (whole fraction places : Nat) : String :=
  let digits := paddedDigits places fraction
  let digits := (digits.reverse.dropWhile (· == '0')).reverse
  if digits.isEmpty then natString whole
  else natString whole ++ "." ++ String.ofList digits

/-- A length of time, given in nanoseconds, in the largest unit that it fills. -/
def durationText (nanoseconds : Nat) : String :=
  let inUnits (places : Nat) :=
    fractionText (nanoseconds / tenTo places) (nanoseconds % tenTo places) places
  if nanoseconds ≥ tenTo 9 then inUnits 9 ++ "s"
  else if nanoseconds ≥ tenTo 6 then inUnits 6 ++ "ms"
  else if nanoseconds ≥ tenTo 3 then inUnits 3 ++ "µs"
  else natString nanoseconds ++ "ns"

end Dossier
