import Dossier.Json.Printer
import Dossier.Text.Pieces
import Dossier.Wire.Load

/-!
# Settings in a file

A configuration is kept as a JSON text. Single settings are named by keys: the names on the way to
the setting, with points between them.

* `Settings.load` : the configuration in a file, with the defaults for a missing file;
* `Settings.get` : the value of a key;
* `Settings.set` : the configuration with another value for a key.

A changed configuration is checked as a whole, so that only usable ones are ever written.
-/

namespace Dossier

/-- Why a setting cannot be shown or changed. -/
inductive SettingFault where
  | load (fault : LoadFault)
  /-- The way to the setting leads nowhere. -/
  | unknownPath (key : String)
  | unknownKey (key : String)
  /-- With the new value this is no configuration. -/
  | mistyped (e : DecodeError)

/-- The text that is shown for a fault. -/
def SettingFault.message : SettingFault → String
  | load fault => fault.message
  | unknownPath key => "Configuration path not found: " ++ key
  | unknownKey key => "Configuration key not found: " ++ key
  | mistyped e => e.message

namespace Settings

/-- The configuration in a file, if there is one, or the defaults. -/
def load (file : Option String) : Except LoadFault Config :=
  match file with
  | some text => Config.load text
  | none => .ok {}

/-- The text of a configuration in a file. -/
def text (c : Config) : String := c.toJson.pretty

/-- A configuration as a tree of settings, with the keys in order. -/
def tree (c : Config) : Json := c.toJson.unique

/-- The names on the way to a setting. -/
def keyParts (key : String) : List String := (Text.split ['.'] key.toList).map String.ofList

/-- The value at the end of a way through a tree of settings. -/
def valueAt? (path : List String) (j : Json) : Option Json := path.foldlM Json.member? j

/-- The value of a key. -/
def get (file : Option String) (key : String) : Except SettingFault Json := do
  let c ← (load file).mapError .load
  match valueAt? (keyParts key) (tree c) with
  | some value => return value
  | none => .error (.unknownKey key)

/-- An object with another value for a key that it has. -/
def replaceMember? (j : Json) (name : String) (value : Json) : Option Json :=
  match j with
  | .obj members =>
    if members.any fun m => m.1 == name then
      some (.obj (members.map fun m => if m.1 == name then (name, value) else m))
    else none
  | _ => none

/-- A tree of settings with another value for the last name of a way through it. -/
def replaceAt (key : String) (value : Json) : List String → Json → Except SettingFault Json
  | [], _ => .error (.unknownKey key)
  | [leaf], j =>
    match replaceMember? j leaf value with
    | some j => .ok j
    | none => .error (.unknownKey key)
  | name :: path, j =>
    match j.member? name with
    | none => .error (.unknownPath key)
    | some inner => do
      let inner ← replaceAt key value path inner
      return (replaceMember? j name inner).getD j

/-- The JSON value that a text spells; any other text stands for itself. -/
def readValue (s : String) : Json :=
  match Json.read? s with
  | some j => j.unique
  | none => .str s

/-- The configuration in a file with another value for a key. -/
def set (file : Option String) (key : String) (value : Json) : Except SettingFault Config := do
  let c ← (load file).mapError .load
  let j ← replaceAt key value (keyParts key) (tree c)
  let c ← (Config.ofJson j).mapError .mistyped
  c.checked.mapError .load

end Settings

end Dossier
