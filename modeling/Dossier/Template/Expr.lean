import Dossier.Template.Value

/-!
# Expressions of templates

* `Expr` : expressions;
* `BinaryOp.level` : how tightly an operator binds.
-/

namespace Dossier.Template

/-- An operator in front of a value. -/
inductive UnaryOp where
  | not
  | negate
deriving DecidableEq, Repr

/-- An operator between two values. -/
inductive BinaryOp where
  | or
  | and
  | eq
  | ne
  | lt
  | le
  | gt
  | ge
  /-- Whether the left value occurs in the right one. -/
  | within
  | add
  | sub
  /-- The texts of both values, one after the other. -/
  | join
  | mul
  | div
  | floorDiv
  | mod
  | pow
deriving DecidableEq, Repr

/-- How tightly an operator binds; `not` binds at level 2. -/
def BinaryOp.level : BinaryOp → Nat
  | or => 0
  | and => 1
  | eq => 3
  | ne => 3
  | lt => 3
  | le => 3
  | gt => 3
  | ge => 3
  | within => 3
  | add => 4
  | sub => 4
  | join => 5
  | mul => 6
  | div => 6
  | floorDiv => 6
  | mod => 6
  | pow => 7

/-- The operator that a symbol stands for. -/
def BinaryOp.ofSymbol? (s : String) : Option BinaryOp :=
  match s with
  | "==" => some eq
  | "!=" => some ne
  | "<" => some lt
  | "<=" => some le
  | ">" => some gt
  | ">=" => some ge
  | "+" => some add
  | "-" => some sub
  | "~" => some join
  | "*" => some mul
  | "/" => some div
  | "//" => some floorDiv
  | "%" => some mod
  | "**" => some pow
  | _ => none

/-- The operator that a word stands for. -/
def BinaryOp.ofName? (s : String) : Option BinaryOp :=
  match s with
  | "or" => some or
  | "and" => some and
  | "in" => some within
  | _ => none

/-- An expression. Arguments may have names. -/
inductive Expr where
  | var (name : String)
  | const (value : Value)
  | unary (op : UnaryOp) (operand : Expr)
  | binary (op : BinaryOp) (left right : Expr)
  /-- The first expression if the test is true, else the second one. -/
  | choice (test chosen other : Expr)
  | filter (name : String) (subject : Expr) (args : List (Option String × Expr))
  | test (name : String) (subject : Expr) (args : List (Option String × Expr))
  | member (subject : Expr) (name : String)
  | item (subject index : Expr)
  | slice (subject start stop step : Expr)
  | call (subject : Expr) (args : List (Option String × Expr))
  | list (items : List Expr)
  | map (entries : List (Expr × Expr))
deriving Inhabited

/-- An argument, which may have a name. -/
abbrev Argument := Option String × Expr

end Dossier.Template
