import Dossier.Json.Reader
import Dossier.Wire.Config

/-!
# Reading values from texts

* `readAs` : the value of a type that a JSON text spells;
* `Config.load` : the configuration that a text spells, if it can be used;
* `LoadFault` : why a text cannot be used.
-/

namespace Dossier

/-- Why a text or value cannot be used. -/
inductive LoadFault where
  /-- The text is no JSON text. -/
  | notJson
  /-- The value is none of the type. -/
  | mistyped (e : DecodeError)
  /-- The configuration cannot be used. -/
  | unusable (fault : ConfigFault)

/-- The text that is shown for a fault. -/
def LoadFault.message : LoadFault → String
  | notJson => "JSON error"
  | mistyped _ => "JSON error"
  | unusable fault => fault.message

/-- The value of a type that is decoded from what was read, if something was. -/
def decodeRead {α : Type} (decode : Json → Decoded α) : Option Json → Except LoadFault α
  | none => .error .notJson
  | some j => (decode j).mapError .mistyped

/-- The value of a type that a text spells. -/
def readAs {α : Type} (decode : Json → Decoded α) (text : String) : Except LoadFault α :=
  decodeRead decode (Json.read? text)

/-- A configuration that can be used. -/
def Config.checked (c : Config) : Except LoadFault Config :=
  match c.check with
  | .ok _ => .ok c
  | .error fault => .error (.unusable fault)

/-- The configuration that a text spells. -/
def Config.load (text : String) : Except LoadFault Config := do
  (← readAs Config.ofJson text).checked

end Dossier
