import Dossier.Template.Reader

/-!
# Free variables of templates

The free variables of a template are the names and dotted paths that it reads without assigning
them before. A path is one name: of `a.b` the variable `a` is not free by itself.

* `Template.free` : the free variables, in the order in which they are read.
-/

namespace Dossier.Template

/-- The dotted path that an expression is, with its first name. -/
def Expr.path? : Expr → Option (String × String)
  | var name => some (name, name)
  | member e name => e.path?.map fun (first, path) => (first, path ++ "." ++ name)
  | _ => none

/-- A path as a free variable, unless its first name is bound. -/
def unlessBound (bound : List String) (first path : String) : List String :=
  if bound.contains first then [] else [path]

mutual

/-- The free variables of an expression outside of bound names. -/
def Expr.free (bound : List String) : Expr → List String
  | .var name => unlessBound bound name name
  | .const _ => []
  | .unary _ e => e.free bound
  | .binary _ a b => a.free bound ++ b.free bound
  | .choice test a b => test.free bound ++ a.free bound ++ b.free bound
  | .filter _ e args => e.free bound ++ freeArguments bound args
  | .test _ e args => e.free bound ++ freeArguments bound args
  | .member e name =>
    match (Expr.member e name).path? with
    | some (first, path) => unlessBound bound first path
    | none => e.free bound
  | .item e index => e.free bound ++ index.free bound
  | .slice e start stop step =>
    e.free bound ++ start.free bound ++ stop.free bound ++ step.free bound
  | .call e args => e.free bound ++ freeArguments bound args
  | .list items => freeItems bound items
  | .map entries => freeEntries bound entries

def freeArguments (bound : List String) : List (Option String × Expr) → List String
  | [] => []
  | (_, e) :: rest => e.free bound ++ freeArguments bound rest

def freeItems (bound : List String) : List Expr → List String
  | [] => []
  | e :: rest => e.free bound ++ freeItems bound rest

def freeEntries (bound : List String) : List (Expr × Expr) → List String
  | [] => []
  | (k, e) :: rest => k.free bound ++ e.free bound ++ freeEntries bound rest

end

mutual

/-- The names that an assignment binds. -/
def Target.names : Target → List String
  | .name s => [s]
  | .tuple targets => namesOfAll targets
  | .member _ _ => []

def namesOfAll : List Target → List String
  | [] => []
  | t :: rest => t.names ++ namesOfAll rest

end

mutual

/-- The free variables of what is assigned to: those of the values whose members are assigned. -/
def Target.free (bound : List String) : Target → List String
  | .name _ => []
  | .tuple targets => freeOfAll bound targets
  | .member e _ => e.free bound

def freeOfAll (bound : List String) : List Target → List String
  | [] => []
  | t :: rest => t.free bound ++ freeOfAll bound rest

end

/-- The free variables of assignments in turn, and the names that are bound after them. A name
counts as bound in its own value. -/
def freeAssignments (bound : List String) :
    List (Target × Expr) → List String × List String
  | [] => ([], bound)
  | (t, e) :: rest =>
    let inner := t.names ++ bound
    let (free, bound) := freeAssignments inner rest
    (t.free bound ++ e.free inner ++ free, bound)

mutual

/-- The free variables of a part, and the names that are bound after it. -/
def Node.free (bound : List String) : Node → List String × List String
  | .text _ => ([], bound)
  | .output e => (e.free bound, bound)
  | .branch test chosen other =>
    (test.free bound ++ freeNodes bound chosen ++ freeNodes bound other, bound)
  | .loop target source condition body other =>
    let outer := "loop" :: bound
    let inner := target.names ++ outer
    let tested := (condition.map (Expr.free inner)).getD []
    (source.free outer ++ target.free outer ++ tested ++ freeNodes inner body ++
      freeNodes bound other, bound)
  | .assign target e =>
    let inner := target.names ++ bound
    (target.free bound ++ e.free inner, inner)
  | .capture target body =>
    let inner := target.names ++ bound
    (target.free bound ++ freeNodes inner body, inner)
  | .scope assignments body =>
    let (free, inner) := freeAssignments bound assignments
    (free ++ freeNodes inner body, bound)
  | .load source _ targets => (source.free bound, namesOfAll targets ++ bound)

/-- The free variables of parts in turn. -/
def freeNodes (bound : List String) : List Node → List String
  | [] => []
  | n :: rest =>
    let (free, bound) := n.free bound
    free ++ freeNodes bound rest

end

end Template

/-- The free variables of a template. -/
def Template.free (t : Template) : List String := Template.freeNodes [] t.nodes

end Dossier
