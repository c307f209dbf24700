/-!
# Powers of two and of ten

The bounds of the integers of so many bits are powers of two, and the places of decimal numbers
count powers of ten.

* `twoTo`, `tenTo` : the powers of two and of ten.
-/

namespace Dossier

/-- A power of two: how many natural numbers have so many bits at most. -/
def twoTo (k : Nat) : Nat := Nat.pow 2 k

/-- A power of ten: how many natural numbers have so many digits at most. -/
def tenTo (k : Nat) : Nat := Nat.pow 10 k

end Dossier
