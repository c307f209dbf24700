import Dossier.Template.Expr

/-!
# Parts of templates

Texts, outputs, conditions, loops, assignments, scopes and loads of other templates. A statement `do`
is read as a condition on nothing. Macros and their calls, named blocks, blocks with a filter or with
escaping, and loops that call themselves are no parts of these templates: they are not read.

* `Target` : what a value can be assigned to;
* `Node` : texts, outputs and statements.
-/

namespace Dossier.Template

/-- What a value can be assigned to. -/
inductive Target where
  | name (s : String)
  /-- The items of a sequence, one by one. -/
  | tuple (targets : List Target)
  /-- A member of a value. No value lets its members be changed. -/
  | member (subject : Expr) (name : String)
deriving Inhabited

/-- A part of a template. -/
inductive Node where
  | text (s : String)
  | output (e : Expr)
  /-- The first parts if the test is true, else the second ones. -/
  | branch (test : Expr) (chosen other : List Node)
  /-- The body for each item that passes the condition, or the other parts if there is none. -/
  | loop (target : Target) (source : Expr) (condition : Option Expr) (body other : List Node)
  | assign (target : Target) (e : Expr)
  /-- Assigns the text that the body renders to. -/
  | capture (target : Target) (body : List Node)
  /-- The body with assignments that hold in it only. -/
  | scope (assignments : List (Target × Expr)) (body : List Node)
  /-- What another template gives. There are no other templates; a missing one may be allowed. -/
  | load (source : Expr) (mayMiss : Bool) (targets : List Target)
deriving Inhabited

end Dossier.Template
