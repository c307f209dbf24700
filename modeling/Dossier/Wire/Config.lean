import Dossier.Catalog
import Dossier.Config
import Dossier.Fields.DataType
import Dossier.Wire.Record

/-!
# JSON form of configurations and catalogs

* `toJson` and `ofJson` for configurations, categories, data types and catalogs.

Every setting and every category of a catalog may be left out.
-/

namespace Dossier

namespace ExpressionConfig

def toJson (c : ExpressionConfig) : Json := .obj [("size_limit", .ofNat c.sizeLimit)]

def ofJson (j : Json) : Decoded ExpressionConfig := do
  let r ← Record.of j
  let sizeLimit ← r.fieldOr 0 "size_limit" ({} : ExpressionConfig).sizeLimit Json.asNat
  r.closed 1
  return { sizeLimit }

end ExpressionConfig

namespace LayoutConfig

def toJson (c : LayoutConfig) : Json := .obj [("line_top_inset", .float c.lineTopInset)]

def ofJson (j : Json) : Decoded LayoutConfig := do
  let r ← Record.of j
  let lineTopInset ← r.fieldOr 0 "line_top_inset" ({} : LayoutConfig).lineTopInset Json.asFloat
  r.closed 1
  return { lineTopInset }

end LayoutConfig

namespace ProcessingConfig

def toJson (c : ProcessingConfig) : Json :=
  .obj [("required_tags", .ofList .str c.requiredTags), ("jobs", .ofNat c.jobs)]

/-- The members of an object are looked at in the order of their keys, so that of two faults the one
in the number of jobs counts. -/
def ofJson (j : Json) : Decoded ProcessingConfig := do
  let r ← Record.of j
  let readTags := r.fieldOr 0 "required_tags" [] (Json.asList Json.asString)
  let readJobs := r.fieldOr 1 "jobs" ({} : ProcessingConfig).jobs Json.asNat
  match r with
  | .members _ =>
    let jobs ← readJobs
    let requiredTags ← readTags
    return { requiredTags, jobs }
  | .elements _ =>
    let requiredTags ← readTags
    let jobs ← readJobs
    r.closed 2
    return { requiredTags, jobs }

end ProcessingConfig

namespace Config

def toJson (c : Config) : Json :=
  .obj [("expression", c.expression.toJson), ("layout", c.layout.toJson),
    ("processing", c.processing.toJson)]

def ofJson (j : Json) : Decoded Config := do
  let r ← Record.of j
  let expression ← r.fieldOr 0 "expression" {} ExpressionConfig.ofJson
  let layout ← r.fieldOr 1 "layout" {} LayoutConfig.ofJson
  let processing ← r.fieldOr 2 "processing" {} ProcessingConfig.ofJson
  r.closed 3
  return { expression, layout, processing }

end Config

namespace Category

def all : List Category := [tags, correspondents, documentTypes, storagePaths, customFields]

def toJson (c : Category) : Json := .str c.name

def ofJson : Json → Decoded Category := Json.asName (all.map fun c => (c.name, c))

end Category

namespace DataType

def all : List DataType := [string, url, date, boolean, integer, float, monetary, documentLink]

def toJson (t : DataType) : Json := .str t.name

def ofJson : Json → Decoded DataType := Json.asName (all.map fun t => (t.name, t))

end DataType

namespace NamedElement

/-- The data type is left out when there is none. -/
def toJson (e : NamedElement) : Json :=
  .obj ([("id", .ofNat e.id), ("name", .str e.name)] ++
    (e.dataType.map fun t => ("data_type", .str t)).toList)

def ofJson (j : Json) : Decoded NamedElement := do
  let r ← Record.of j
  let id ← r.field 0 "id" Json.asNat
  let name ← r.field 1 "name" Json.asString
  let dataType ← r.fieldOr 2 "data_type" none (Json.asOption Json.asString)
  r.closed 3
  return { id, name, dataType }

end NamedElement

namespace CategoryName

def toJson (n : CategoryName) : Json :=
  .obj [("category", n.category.toJson), ("name", .str n.name)]

def ofJson (j : Json) : Decoded CategoryName := do
  let r ← Record.of j
  let category ← r.field 0 "category" Category.ofJson
  let name ← r.field 1 "name" Json.asString
  r.closed 2
  return ⟨category, name⟩

end CategoryName

namespace Catalog

def toJson (c : Catalog) : Json :=
  .obj (Category.all.map fun category =>
    (category.name, .ofList NamedElement.toJson (c.list category)))

def ofJson (j : Json) : Decoded Catalog := do
  let r ← Record.of j
  let elements (place : Nat) (category : Category) :=
    r.fieldOr place category.name [] (Json.asList NamedElement.ofJson)
  let tags ← elements 0 .tags
  let correspondents ← elements 1 .correspondents
  let documentTypes ← elements 2 .documentTypes
  let storagePaths ← elements 3 .storagePaths
  let customFields ← elements 4 .customFields
  r.closed 5
  return { tags, correspondents, documentTypes, storagePaths, customFields }

end Catalog

end Dossier
