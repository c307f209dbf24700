import Dossier.Template.Context
import Dossier.Template.Filters
import Dossier.Template.Free

/-!
# Rendering templates

* `Expr.value` : the value of an expression;
* `Node.render` : the text of a part, and the variables after it;
* `Template.render` : the text of a template under a context. If a value is missing, the error has
  the first name that the template reads and the context does not define.
-/

namespace Dossier.Template

/-- Variables in nested frames, the innermost first. Assignments go into the innermost frame. -/
abbrev Scope := List (List (String × Value))

namespace Scope

/-- The value of a variable. -/
def find (s : Scope) (name : String) : Value := (s.findSome? (·.lookup name)).getD .undefined

/-- Puts variables into the innermost frame. -/
def bind (s : Scope) (bindings : List (String × Value)) : Scope :=
  match s with
  | [] => [bindings]
  | frame :: outer => (bindings ++ frame) :: outer

end Scope

mutual

/-- The variables that a value gives when it is assigned. A sequence needs as many items as there
are targets. -/
def Target.assigned (v : Value) : Target → Except FieldError (List (String × Value))
  | .name s => .ok [(s, v)]
  | .tuple targets =>
    match v.items? with
    | some items => assignedAll items targets
    | none => refused
  | .member _ _ => refused

def assignedAll (items : List Value) : List Target → Except FieldError (List (String × Value))
  | [] => if items.isEmpty then .ok [] else refused
  | t :: rest =>
    match items with
    | [] => refused
    | v :: items => do
      let first ← t.assigned v
      return (← assignedAll items rest) ++ first

end

/-- The value of a member or item, which has to belong to a value that exists. -/
def partOf (v : Value) (part : Value → Value) : Except FieldError Value := do
  return part (← v.present)

/-- The arguments of given values. -/
def Arguments.ofList (args : List (Option String × Value)) : Arguments where
  positional := args.filterMap fun (name, v) => if name.isNone then some v else none
  named := args.filterMap fun (name, v) => name.map (·, v)

mutual

/-- The value of an expression. -/
def Expr.value (s : Scope) : Expr → Except FieldError Value
  | .var name => .ok (s.find name)
  | .const v => .ok v
  | .unary op e => do op.apply (← e.value s)
  | .binary .and a b => do
    let x ← a.value s
    if ← x.truth then b.value s else return x
  | .binary .or a b => do
    let x ← a.value s
    if ← x.truth then return x else b.value s
  | .binary op a b => do
    let x ← a.value s
    op.apply x (← b.value s)
  | .choice test a b => do
    if ← (← test.value s).truth then a.value s else b.value s
  | .filter name e args => do
    let v ← e.value s
    applyFilter name v (.ofList (← argumentValues s args))
  | .test name e args => do
    let v ← e.value s
    applyTest name v (.ofList (← argumentValues s args))
  | .member e name => do partOf (← e.value s) (·.member name)
  | .item e index => do
    let v ← e.value s
    let index ← index.value s
    partOf v (·.item index)
  | .slice e start stop step => do
    let v ← e.value s
    let start ← start.value s
    let stop ← stop.value s
    v.sliced start stop (← step.value s)
  | .call (.var name) args => do
    let args ← argumentValues s args
    if (s.find name).isUndefined then callFunction name (.ofList args) else refused
  | .call (.member e _) args => do
    let _ ← e.value s
    let _ ← argumentValues s args
    refused
  | .call e args => do
    let _ ← e.value s
    let _ ← argumentValues s args
    refused
  | .list items => do return .list (← itemValues s items)
  | .map entries => do return .ofEntries (← entryValues s entries)

def argumentValues (s : Scope) :
    List (Option String × Expr) → Except FieldError (List (Option String × Value))
  | [] => .ok []
  | (name, e) :: rest => do
    let v ← e.value s
    return (name, v) :: (← argumentValues s rest)

def itemValues (s : Scope) : List Expr → Except FieldError (List Value)
  | [] => .ok []
  | e :: rest => do
    let v ← e.value s
    return v :: (← itemValues s rest)

def entryValues (s : Scope) : List (Expr × Expr) → Except FieldError (List (Value × Value))
  | [] => .ok []
  | (k, e) :: rest => do
    let k ← k.value s
    let v ← e.value s
    return (k, v) :: (← entryValues s rest)

end

/-- A loop at one of its items. -/
structure Turn where
  index : Nat
  /-- The item before this one; the first item has none. -/
  previous : Value
  item : Value
  /-- The items after this one. -/
  rest : List Value

/-- The variables that hold for one item of a loop. The length may be unknown. A loop stands at the
outermost level, since none calls itself. -/
def loopVariables (target : Target) (length : Option Nat) (turn : Turn) :
    Except FieldError (List (String × Value)) := do
  let number (n : Nat) : Value := .int (Int.ofNat n)
  let counts := match length with
    | some n =>
      [("length", number n), ("revindex", number (n - turn.index)),
        ("revindex0", number (n - turn.index - 1))]
    | none => []
  let place := [("index", number (turn.index + 1)), ("index0", number turn.index),
    ("first", .bool (turn.index == 0)), ("last", .bool turn.rest.isEmpty),
    ("depth", number 1), ("depth0", number 0),
    ("previtem", turn.previous), ("nextitem", turn.rest.headD .undefined)]
  return (← target.assigned turn.item) ++ [("loop", Value.ofNamed (place ++ counts))]

/-- The items that pass the condition of a loop. -/
def passing (s : Scope) (target : Target) (condition : Expr) :
    List Value → Except FieldError (List Value)
  | [] => .ok []
  | item :: rest => do
    let bindings ← target.assigned item
    let passes ← (← condition.value (bindings :: s)).truth
    let others ← passing s target condition rest
    return if passes then item :: others else others

/-- The items of a loop, and how many they are if this is known before its end. -/
def loopItems (s : Scope) (target : Target) (source : Value) (condition : Option Expr) :
    Except FieldError (List Value × Option Nat) := do
  if let .undefined := source then missing
  let items ← match source.items? with
    | some items => pure items
    | none => refused
  match condition with
  | none => return (items, source.length?)
  | some condition =>
    let items ← passing s target condition items
    return (items, some items.length)

/-- The texts of a loop for its items in turn. The frame of the loop is kept from item to item. -/
def renderItems (render : List (String × Value) → Except FieldError (String × Scope))
    (bindings : Turn → Except FieldError (List (String × Value))) (index : Nat) (previous : Value)
    (frame : List (String × Value)) : List Value → Except FieldError String
  | [] => .ok ""
  | item :: rest => do
    let bound ← bindings { index, previous, item, rest }
    let (text, after) ← render (bound ++ frame)
    return text ++ (← renderItems render bindings (index + 1) item (after.headD []) rest)

/-- Assignments in turn, each with the variables of those before it. -/
def assignAll (s : Scope) : List (Target × Expr) → Except FieldError Scope
  | [] => .ok s
  | (target, e) :: rest => do
    let v ← e.value s
    assignAll (s.bind (← target.assigned v)) rest

mutual

/-- The text of a part, and the variables after it. -/
def Node.render (s : Scope) : Node → Except FieldError (String × Scope)
  | .text t => .ok (t, s)
  | .output e => do
    match ← e.value s with
    | .undefined => missing
    | v => return (v.text, s)
  | .branch test chosen other => do
    if ← (← test.value s).truth then renderNodes s chosen else renderNodes s other
  | .loop target source condition body other => do
    let (items, length) ← loopItems s target (← source.value s) condition
    if items.isEmpty then renderNodes s other
    else
      let text ← renderItems (fun frame => renderNodes (frame :: s) body)
        (loopVariables target length) 0 .undefined [] items
      return (text, s)
  | .assign target e => do
    let v ← e.value s
    return ("", s.bind (← target.assigned v))
  | .capture target body => do
    let (text, s) ← renderNodes s body
    return ("", s.bind (← target.assigned (.str text)))
  | .scope assignments body => do
    let (text, _) ← renderNodes (← assignAll ([] :: s) assignments) body
    return (text, s)
  | .load source mayMiss _ => do
    let names := match ← source.value s with
      | .list items => items
      | v => [v]
    if mayMiss && names.all (·.kind == .string) then return ("", s) else refused

/-- The text of parts in turn, and the variables after them. -/
def renderNodes (s : Scope) : List Node → Except FieldError (String × Scope)
  | [] => .ok ("", s)
  | n :: rest => do
    let (first, s) ← n.render s
    let (text, s) ← renderNodes s rest
    return (first ++ text, s)

end

/-- The first of some names in their order. -/
def firstName (names : List String) : Option String :=
  names.foldl (fun first name =>
    match first with
    | none => some name
    | some n => if name < n then some name else some n) none

end Template

namespace Template

/-- The name for the error of a missing value: the first free variable that is not defined. -/
def missingName (t : Template) (c : Context) : Option String :=
  firstName (t.free.filter fun name => !c.defines name)

/-- The text of a template under a context. -/
def render (t : Template) (c : Context) : Except FieldError String :=
  match renderNodes [[], c.bindings] t.nodes with
  | .ok (text, _) => .ok text
  | .error (.undefinedVariable _) => .error (.undefinedVariable (t.missingName c))
  | .error e => .error e

end Template

/-- Reads a template and renders it. -/
def renderText (text : String) (c : Template.Context) : Except FieldError String :=
  match Template.read text with
  | .ok t => t.render c
  | .error .malformed => .error .malformedTemplate
  | .error .badEscape => .error .templateFailure

end Dossier
