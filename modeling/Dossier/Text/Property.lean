import Dossier.Text.BinaryProperty
import Dossier.Text.ScriptExtension

/-!
# Character properties by name

`CharSet.ofProperty` finds the characters that have a named property: a binary property, a
general category or a script, or a value of one of the last two, or of the script extensions, given
as `name=value`. Ages and the properties of text segmentation are not among them.
-/

namespace Dossier.CharSet

/-- The loose spelling of a property name: in lower case, without a leading "is", and without
spaces, hyphens, underscores and characters beyond ASCII. -/
def looseName (name : List Char) : String :=
  let plain (s : List Char) := s.filter fun c => c.toNat < 0x80 && !(c == ' ' || c == '-' || c == '_')
  match name.map Char.toLower with
  | 'i' :: 's' :: rest => if plain rest = ['c'] then "isc" else String.ofList (plain rest)
  | lower => String.ofList (plain lower)

/-- The characters of a property written as a name alone. -/
def ofSingleName? (name : String) : Option CharSet :=
  (ofBinaryProperty? name).or ((ofCategory? name).or (ofScript? name))

/-- Why no characters have a property. -/
inductive PropertyFault where
  | unknownName
  | unknownValue
deriving Repr, DecidableEq

/-- The characters of a property written as a name and a value. Binary properties have no values. -/
def ofNameAndValue (name value : String) : Except PropertyFault CharSet :=
  let known (found : Option CharSet) : Except PropertyFault CharSet :=
    match found with
    | some s => .ok s
    | none => .error .unknownValue
  match name with
  | "generalcategory" | "gc" => known (ofCategory? value)
  | "script" | "sc" => known (ofScript? value)
  | "scriptextensions" | "scx" => known (ofScriptExtension? value)
  | _ => .error (if (ofBinaryProperty? name).isSome then .unknownValue else .unknownName)

/-- Splits a text at the first place where a separator starts. -/
private def splitAtFirst (separator : List Char) : List Char → Option (List Char × List Char)
  | [] => none
  | c :: rest =>
    if separator.isPrefixOf (c :: rest) then some ([], (c :: rest).drop separator.length)
    else (splitAtFirst separator rest).map fun (before, after) => (c :: before, after)

/-- The characters that a property text stands for: `name`, `name=value`, `name:value`, or, for
all other characters, `name!=value`. -/
def ofProperty (text : List Char) : Except PropertyFault CharSet :=
  let named (parts : List Char × List Char) :=
    ofNameAndValue (looseName parts.1) (looseName parts.2)
  match splitAtFirst ['!', '='] text with
  | some parts => (named parts).map complement
  | none =>
    match splitAtFirst [':'] text with
    | some parts => named parts
    | none =>
      match splitAtFirst ['='] text with
      | some parts => named parts
      | none =>
        match ofSingleName? (looseName text) with
        | some s => .ok s
        | none => .error .unknownName

end Dossier.CharSet
