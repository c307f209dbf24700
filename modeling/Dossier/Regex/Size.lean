import Dossier.Regex.Tree

/-!
# The size of an expression

Expressions are refused when the automaton for them would grow too large. `Tree.size` estimates
the bytes that its states take; repetition counts multiply, so the estimate is made on the tree and
not on its unrolled form. Plain text needs no automaton and is never too large.

* `Tree.size` : the estimate;
* `Tree.isText` : expressions that match one nonempty text only;
* `Tree.fits` : whether an expression is within a limit.
-/

namespace Dossier.Regex

/-- The bytes of one state. -/
def stateSize : Nat := 32

/-- The bytes for one character out of a set. A set with characters beyond ASCII takes several
states, one after the other, for the bytes of their encodings. -/
def setSize (s : CharSet) : Nat :=
  match s.ranges with
  | [(a, b)] =>
    if a = b then
      stateSize * (if a < 0x80 then 1 else if a < 0x800 then 2 else if a < 0x10000 then 3 else 4)
    else if s.isAscii then stateSize
    else 256 + 20
  | ranges => if s.isAscii then stateSize + 8 * ranges.length else 256 + 20 * ranges.length

namespace Tree

/-- The bytes of a choice between two ways on. -/
private def choiceSize : Nat := stateSize + 8

/-- An estimate of the bytes that the states of an expression take. -/
def size : Tree → Nat
  | empty => stateSize
  | set s => setSize s
  | look _ => stateSize
  | seq a b => a.size + b.size
  | alt a b => choiceSize + a.size + b.size
  | group _ _ body => 2 * stateSize + body.size
  | rep min none _ body => (Nat.max min 1) * body.size + choiceSize
  | rep min (some max) _ body =>
    min * body.size + (max - min) * (body.size + choiceSize) + stateSize

/-- Whether the expression matches one nonempty text only. -/
def isText : Tree → Bool
  | set ⟨[(a, b)]⟩ => a == b
  | seq a b => a.isText && b.isText
  | _ => false

/-- The bytes around an expression: the search for its start, the whole match and its end. -/
def frameSize : Nat := 5 * stateSize + 8

/-- Whether an expression is within a limit of so many bytes. -/
def fits (t : Tree) (limit : Nat) : Bool := t.isText || decide (frameSize + t.size ≤ limit)

end Tree

end Dossier.Regex
