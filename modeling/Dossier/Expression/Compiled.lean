import Dossier.Entries
import Dossier.Expression.Simple
import Dossier.Regex.Machine

/-!
# Compiled expressions

* `Expression` : an expression in one of the two notations;
* `Compiled` : an expression with the regular expression that it stands for;
* `Compiled.find` : the first match in a text, as the values and places of its named groups.
-/

namespace Dossier

/-- An expression in one of the two notations. -/
inductive Expression where
  /-- Text with wildcards and placeholders. -/
  | simple (text : String)
  /-- A regular expression. -/
  | regex (text : String)
deriving DecidableEq, Repr

/-- The text of an expression in its notation. -/
def Expression.text : Expression → String
  | simple text => text
  | regex text => text

/-- The regular expression that an expression stands for. -/
def Expression.pattern : Expression → Except ExpressionError String
  | simple text => simplePattern text
  | regex text => .ok text

/-- An expression with the regular expression that it stands for. -/
structure Compiled where
  expression : Expression
  pattern : String
  tree : Regex.Tree

/-- The named groups of one match: the values in the order of the names, and where they stand, in
the order in which the groups open. Places are counted in characters. -/
structure GroupMatch where
  values : List (String × String)
  positions : List (Nat × Nat)
deriving DecidableEq, Repr

/-- Reads a regular expression within a size limit. -/
def compilePattern (pattern : String) (sizeLimit : Nat) : Except ExpressionError Regex.Tree :=
  match Regex.compile pattern.toList sizeLimit with
  | .ok tree => .ok tree
  | .error fault => .error (.invalidPattern pattern fault)

/-- Whether a regular expression matches somewhere in a text. -/
def Regex.Tree.isMatch (t : Regex.Tree) (text : String) : Bool :=
  (Regex.search t text.toList).isSome

/-- Compiles an expression. -/
def Expression.compile (e : Expression) (sizeLimit : Nat) : Except ExpressionError Compiled :=
  match e.pattern with
  | .error fault => .error fault
  | .ok pattern =>
    match compilePattern pattern sizeLimit with
    | .error fault => .error fault
    | .ok tree => .ok ⟨e, pattern, tree⟩

namespace Compiled

/-- The names of the groups, in the order in which they open. -/
def groupNames (c : Compiled) : List String := c.tree.namedGroups.map Prod.snd

/-- The named groups that took part in a match, with their places. -/
def captured (c : Compiled) (m : Regex.Match) : List (String × Nat × Nat) :=
  c.tree.namedGroups.filterMap fun g => (m.captures.lookup g.1).map fun place => (g.2, place)

/-- The characters of a text from one place to another. -/
def cut (text : List Char) (place : Nat × Nat) : String :=
  String.ofList ((text.drop place.1).take (place.2 - place.1))

/-- The first match in a text. Groups that took no part in it are left out. -/
def find (c : Compiled) (text : String) : Option GroupMatch :=
  (Regex.search c.tree text.toList).map fun m =>
    let captured := c.captured m
    { values := entriesOf (captured.map fun g => (g.1, cut text.toList g.2))
      positions := captured.map Prod.snd }

end Compiled

end Dossier
