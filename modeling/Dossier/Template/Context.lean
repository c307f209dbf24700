import Dossier.Template.Value
import Dossier.Text.Pieces

/-!
# Variables of templates

The variables come from texts with names, in the order of the names. A name with a point stands for
a member: the part before its first point is the variable, the part after it the member.

* `Context.bindings` : the variables with their values;
* `Context.defines` : whether a dotted path is a name or starts one.
-/

namespace Dossier.Template

/-- Texts with names. -/
abbrev Context := List (String × String)

namespace Context

/-- The parts of a name before and after its first point. -/
def splitName? (name : String) : Option (String × String) :=
  (Text.cutAt? ['.'] name.toList).map fun (outer, inner) =>
    (String.ofList outer, String.ofList inner)

/-- The members of variables, by variable. -/
def members : Context → List (String × List (String × Value))
  | [] => []
  | (name, text) :: rest =>
    match splitName? name with
    | some (outer, inner) =>
      updateEntry outer (fun members => (inner, .str text) :: members.getD []) (members rest)
    | none => members rest

/-- The texts whose names have no point. -/
def plain (c : Context) : List (String × Value) :=
  c.filterMap fun (name, text) =>
    if (splitName? name).isSome then none else some (name, .str text)

/-- The variables with their values. A variable with members is no text. -/
def bindings (c : Context) : List (String × Value) :=
  c.members.map (fun (name, members) => (name, .ofNamed members)) ++ c.plain

/-- Whether a dotted path is a name, or what stands before a point in a name. -/
def defines (c : Context) (path : String) : Bool :=
  c.any fun e => e.1 == path || (path.toList ++ ['.']).isPrefixOf e.1.toList

end Context

end Dossier.Template
