import Dossier.Catalog
import Dossier.Fields.Filter
import Dossier.Layout.Document
import Dossier.Results
import Dossier.Template.Render

/-!
# Values of fields

* `fieldContext` : the names that field templates can use;
* `Field.dataType?` : the data type that the value of a field must have;
* `Renderer` : what makes the values of fields from their templates;
* `Field.render` : the value of a field.
-/

namespace Dossier

/-- The metadata of a document under its names in templates, as far as it is set. -/
def Document.metadata (d : Document) : List (String × String) :=
  let entries :=
    [("document.id", some (natString d.id)), ("document.title", some d.title),
      ("document.correspondent", d.correspondent), ("document.document_type", d.documentType),
      ("document.storage_path", d.storagePath),
      ("document.date_created", d.dateCreated.map Date.isoString)]
  entries.filterMap fun (name, value) => value.map (name, ·)

/-- The names that field templates can use: the captured values of the kept results, where a later
result wins over an earlier one, and the metadata of the document, which wins over both. -/
def fieldContext (d : Document) (retained : List (Option RegionResult)) : Template.Context :=
  let captured := retained.flatMap fun r => (r.bind RegionResult.values).getD []
  entriesOf (captured ++ d.metadata)

/-- The name of the data type that the value of a field must have, if it is known. -/
def Field.dataType? (f : Field) (catalog : Option Catalog) : Option String :=
  match f.kind with
  | .builtIn =>
    if f.name = "title" then some DataType.string.name
    else if f.name = "created" then some DataType.date.name
    else none
  | .custom => (catalog.bind (·.find? .customFields f.name)).bind NamedElement.dataType

/-- What is wrong with a value for a type that is given by its name. An unknown type allows every
value. -/
def typeFault? (typeName : Option String) (value : String) : Option String :=
  match typeName.bind DataType.ofName? with
  | none => none
  | some type =>
    match type.validate value with
    | .ok _ => none
    | .error e => some e.message

/-- What makes the text of a template from the names that it can use. -/
abbrev Renderer := String → Template.Context → Except FieldError String

/-- The value of a field. A blank template gives none. -/
def Field.render (f : Field) (context : Template.Context) (catalog : Option Catalog)
    (renderer : Renderer := renderText) : Option FieldResult :=
  if (Text.trim f.template.toList).isEmpty then none
  else
    let dataType := f.dataType? catalog
    match renderer f.template context with
    | .ok value => some { dataType, value := some value, error := typeFault? dataType value }
    | .error e => some { dataType, error := some e.message }

end Dossier
