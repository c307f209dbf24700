import Dossier.Entries

/-!
# JSON values

Objects keep their members in the order in which they are written, also when a key is repeated.
Numbers written without point and exponent are integers, all others are floating-point numbers.

* `Json` : the values;
* `Json.member?` : the value of the last member with a key;
* `Json.unique` : objects with each key once, keeping the last value, in the order of the keys.
-/

namespace Dossier

/-- A JSON value. -/
inductive Json where
  | null
  | bool (b : Bool)
  | int (n : Int)
  | float (x : Float)
  | str (s : String)
  | arr (elements : List Json)
  | obj (members : List (String × Json))
deriving Inhabited

namespace Json

/-- The JSON value of an optional value: null if it is absent. -/
def ofOption {α : Type} (encode : α → Json) : Option α → Json
  | none => null
  | some a => encode a

def ofNat (n : Nat) : Json := int n

def ofList {α : Type} (encode : α → Json) (as : List α) : Json := arr (as.map encode)

def ofOptionString (s : Option String) : Json := ofOption str s

/-- The value of the last member with a key. -/
def lookup? (members : List (String × Json)) (key : String) : Option Json :=
  members.reverse.lookup key

/-- The value of the last member with a key, if this is an object that has one. -/
def member? (j : Json) (key : String) : Option Json :=
  match j with
  | obj members => lookup? members key
  | _ => none

mutual

/-- The value with each key of an object once, keeping the last value, in the order of the keys. -/
def unique : Json → Json
  | arr elements => arr (uniqueElements elements)
  | obj members => obj (uniqueMembers members)
  | null => null
  | bool b => bool b
  | int n => int n
  | float x => float x
  | str s => str s

def uniqueElements : List Json → List Json
  | [] => []
  | j :: rest => unique j :: uniqueElements rest

/-- Members of later places win over those of earlier places. -/
def uniqueMembers : List (String × Json) → List (String × Json)
  | [] => []
  | (key, value) :: rest =>
    let others := uniqueMembers rest
    if others.any (fun m => m.1 == key) then others else putEntry key (unique value) others

end

mutual

/-- How deep arrays and objects are nested in a value. -/
def depth : Json → Nat
  | .arr elements => depthOfAll elements + 1
  | .obj members => depthOfMembers members + 1
  | .null => 0
  | .bool _ => 0
  | .int _ => 0
  | .float _ => 0
  | .str _ => 0

def depthOfAll : List Json → Nat
  | [] => 0
  | j :: rest => max j.depth (depthOfAll rest)

def depthOfMembers : List (String × Json) → Nat
  | [] => 0
  | (_, j) :: rest => max j.depth (depthOfMembers rest)

end

end Json

end Dossier
