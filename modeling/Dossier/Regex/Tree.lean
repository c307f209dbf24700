import Dossier.Text.Letter

/-!
# Regular expressions as trees

* `Look` : conditions on a place in the text that take no characters;
* `Tree` : regular expressions, in which alternatives and repetitions are ordered by preference;
* `Tree.repeated` : repetition in a form where nothing is repeated needlessly;
* `Tree.groups` : the capture groups with their names, in the order in which they open.
-/

namespace Dossier.Regex

/-- A condition on the characters before and after a place in the text. -/
inductive Look where
  | textStart
  | textEnd
  | lineStart
  | lineEnd
  /-- Lines that end in a carriage return, a line feed or both. -/
  | returnLineStart
  | returnLineEnd
  | wordBoundary (inWord : CharSet)
  | noWordBoundary (inWord : CharSet)
  | wordStart (inWord : CharSet)
  | wordEnd (inWord : CharSet)
  | noWordBefore (inWord : CharSet)
  | noWordAfter (inWord : CharSet)
deriving Repr, DecidableEq

/-- Whether the condition holds between two characters, each absent at an end of the text. -/
def Look.holds (before after : Option Char) : Look → Bool
  | .textStart => before.isNone
  | .textEnd => after.isNone
  | .lineStart => before.isNone || before == some '\n'
  | .lineEnd => after.isNone || after == some '\n'
  | .returnLineStart =>
    before.isNone || before == some '\n' || (before == some '\r' && after != some '\n')
  | .returnLineEnd =>
    after.isNone || after == some '\r' || (after == some '\n' && before != some '\r')
  | .wordBoundary w => before.any w.contains != after.any w.contains
  | .noWordBoundary w => before.any w.contains == after.any w.contains
  | .wordStart w => !before.any w.contains && after.any w.contains
  | .wordEnd w => before.any w.contains && !after.any w.contains
  | .noWordBefore w => !before.any w.contains
  | .noWordAfter w => !after.any w.contains

/-- A regular expression. -/
inductive Tree where
  /-- Matches without taking a character. -/
  | empty
  /-- Matches one character of a set. -/
  | set (members : CharSet)
  | look (condition : Look)
  | seq (first second : Tree)
  /-- Prefers the first alternative. -/
  | alt (first second : Tree)
  /-- From `min` to `max` copies, any number from `min` on when there is no `max`. A greedy
  repetition prefers more copies, the other kind fewer. -/
  | rep (min : Nat) (max : Option Nat) (greedy : Bool) (body : Tree)
  /-- A capture group. -/
  | group (index : Nat) (name : Option String) (body : Tree)
deriving Repr, DecidableEq, Inhabited

namespace Tree

/-- Whether the expression takes no character in any match. -/
def isBlind : Tree → Bool
  | empty => true
  | set _ => false
  | look _ => true
  | seq a b => a.isBlind && b.isBlind
  | alt a b => a.isBlind && b.isBlind
  | rep _ max _ body => max == some 0 || body.isBlind
  | group _ _ body => body.isBlind

/-- Whether every match takes a character. An expression without any match does not count. -/
def alwaysTakes : Tree → Bool
  | empty => false
  | set s => !s.isEmpty
  | look _ => false
  | seq a b => a.alwaysTakes || b.alwaysTakes
  | alt a b => a.alwaysTakes && b.alwaysTakes
  | rep min _ _ body => decide (0 < min) && body.alwaysTakes
  | group _ _ body => body.alwaysTakes

/-- Repetition. What takes no character is repeated once at most, and no copies at all leave
nothing of the body, its groups included. -/
def repeated (min : Nat) (max : Option Nat) (greedy : Bool) (body : Tree) : Tree :=
  let lo := if body.isBlind then Nat.min min 1 else min
  let hi := if body.isBlind then some ((max.getD 1).min 1) else max
  if lo = 0 ∧ hi = some 0 then empty
  else if lo = 1 ∧ hi = some 1 then body
  else rep lo hi greedy body

/-- The expressions in a row. -/
def seqAll : List Tree → Tree
  | [] => empty
  | [t] => t
  | t :: rest => seq t (seqAll rest)

/-- The alternatives in order of preference. -/
def altAll : List Tree → Tree
  | [] => empty
  | [t] => t
  | t :: rest => alt t (altAll rest)

/-- The capture groups with their names, in the order in which they open. -/
def groups : Tree → List (Nat × Option String)
  | empty | set _ | look _ => []
  | seq a b => a.groups ++ b.groups
  | alt a b => a.groups ++ b.groups
  | rep _ _ _ body => body.groups
  | group index name body => (index, name) :: body.groups

/-- The named groups in the order in which they open. -/
def namedGroups (t : Tree) : List (Nat × String) :=
  t.groups.filterMap fun g => g.2.map fun name => (g.1, name)

end Tree

end Dossier.Regex
