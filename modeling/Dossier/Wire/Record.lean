import Dossier.Json.Basic
import Dossier.Number.Digits

/-!
# Decoding JSON values

A record is written as an object with its fields as members, or as an array of its fields in their
order. Members that are no fields are passed over, and no field stands twice.

* `DecodeError` : why a JSON value is not of a type;
* `Json.asString`, `Json.asNat` and so on : the simple types;
* `Record` : the fields of a record, `Record.field`, `Record.fieldOr` and `Record.optional` : one of
  them.
-/

namespace Dossier

/-- Why a JSON value is not of a type. -/
inductive DecodeError where
  | invalidType
  | invalidValue
  | tooFewElements
  /-- An array has so many elements, more than can be used. -/
  | tooManyElements (count : Nat)
  | missingField
  | duplicateField
deriving DecidableEq, Repr

/-- The words for a fault. -/
def DecodeError.message : DecodeError → String
  | invalidType => "invalid type"
  | invalidValue => "invalid value"
  | tooFewElements => "invalid length"
  | tooManyElements count =>
    "invalid length " ++ natString count ++ ", expected fewer elements in array"
  | missingField => "missing field"
  | duplicateField => "duplicate field"

/-- A value or the reason why there is none. -/
abbrev Decoded := Except DecodeError

namespace Json

def asString : Json → Decoded String
  | str s => .ok s
  | _ => .error .invalidType

def asBool : Json → Decoded Bool
  | bool b => .ok b
  | _ => .error .invalidType

/-- An integer between bounds. -/
def asIntIn (lo hi : Int) : Json → Decoded Int
  | int n => if lo ≤ n ∧ n ≤ hi then .ok n else .error .invalidValue
  | _ => .error .invalidType

/-- A natural number of 64 bits. -/
def asNat (j : Json) : Decoded Nat := (j.asIntIn 0 (twoTo 64 - 1)).map Int.toNat

/-- An integer of 32 bits. -/
def asInt32 (j : Json) : Decoded Int := j.asIntIn (-(twoTo 31 : Int)) (twoTo 31 - 1)

/-- A floating-point number, which may be written as an integer. -/
def asFloat : Json → Decoded Float
  | float x => .ok x
  | int n => .ok (Float.ofInt n)
  | _ => .error .invalidType

/-- A value or null. -/
def asOption {α : Type} (decode : Json → Decoded α) : Json → Decoded (Option α)
  | null => .ok none
  | j => (decode j).map some

/-- An array of values. -/
def asList {α : Type} (decode : Json → Decoded α) : Json → Decoded (List α)
  | arr elements => elements.mapM decode
  | _ => .error .invalidType

/-- One of several names, written as a string or as an object with the name as its only key and
null as its value. -/
def asName {α : Type} (names : List (String × α)) : Json → Decoded α
  | str s =>
    match names.lookup s with
    | some a => .ok a
    | none => .error .invalidValue
  | obj [(s, null)] =>
    match names.lookup s with
    | some a => .ok a
    | none => .error .invalidValue
  | _ => .error .invalidType

/-- A value that is written as a text of its own. -/
def asText {α : Type} (read? : List Char → Option α) : Json → Decoded α
  | str s =>
    match read? s.toList with
    | some a => .ok a
    | none => .error .invalidValue
  | _ => .error .invalidType

/-- An object with any keys. Of a repeated key the last value counts. -/
def asEntries {α : Type} (decode : Json → Decoded α) : Json → Decoded (List (String × α))
  | obj members => (members.mapM fun m => (decode m.2).map fun a => (m.1, a)).map entriesOf
  | _ => .error .invalidType

end Json

/-- The fields of a record as they are written. -/
inductive Record where
  | members (members : List (String × Json))
  | elements (elements : List Json)

namespace Record

/-- The fields of a record that is written as an object or as an array. -/
def of : Json → Decoded Record
  | .obj ms => .ok (.members ms)
  | .arr es => .ok (.elements es)
  | _ => .error .invalidType

/-- The fields of a record that is written as an object. -/
def ofObject : Json → Decoded Record
  | .obj ms => .ok (.members ms)
  | _ => .error .invalidType

/-- The value of the field with a place and a name, if it is there. -/
def get (r : Record) (place : Nat) (name : String) : Decoded (Option Json) :=
  match r with
  | members ms =>
    match ms.filter fun m => m.1 == name with
    | [] => .ok none
    | [m] => .ok (some m.2)
    | _ => .error .duplicateField
  | elements es => .ok es[place]?

/-- A field that has to be there. -/
def field {α : Type} (r : Record) (place : Nat) (name : String) (decode : Json → Decoded α) :
    Decoded α := do
  match ← r.get place name with
  | some j => decode j
  | none =>
    match r with
    | members _ => .error .missingField
    | elements _ => .error .tooFewElements

/-- A field with a default. -/
def fieldOr {α : Type} (r : Record) (place : Nat) (name : String) (default : α)
    (decode : Json → Decoded α) : Decoded α := do
  match ← r.get place name with
  | some j => decode j
  | none => .ok default

/-- A field that may be null, and in an object may be left out. -/
def optional {α : Type} (r : Record) (place : Nat) (name : String) (decode : Json → Decoded α) :
    Decoded (Option α) := do
  match ← r.get place name with
  | some j => j.asOption decode
  | none =>
    match r with
    | members _ => .ok none
    | elements _ => .error .tooFewElements

/-- An array has no more elements than the record has fields. -/
def closed (r : Record) (count : Nat) : Decoded Unit :=
  match r with
  | members _ => .ok ()
  | elements es =>
    if es.length ≤ count then .ok () else .error (.tooManyElements es.length)

end Record

end Dossier
