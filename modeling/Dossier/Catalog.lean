import Dossier.Pattern

/-!
# Catalogs of names

A catalog lists the names that exist in a system that manages documents. Checks compare names and
need no catalog; it serves for suggestions, for finding names that do not exist, and for the data
types of custom fields.

* `Category`, `NamedElement`, `Catalog` : the names by category;
* `Catalog.suggest` : the names with a beginning;
* `unknownNames` : the names of a pattern that a catalog has not.
-/

namespace Dossier

/-- The sorts of things that have names. -/
inductive Category where
  | tags
  | correspondents
  | documentTypes
  | storagePaths
  | customFields
deriving DecidableEq, Repr

def Category.name : Category → String
  | tags => "tags"
  | correspondents => "correspondents"
  | documentTypes => "document_types"
  | storagePaths => "storage_paths"
  | customFields => "custom_fields"

/-- A thing with a name; custom fields have a data type as well. -/
structure NamedElement where
  id : Nat
  name : String
  dataType : Option String := none
deriving DecidableEq, Repr

/-- The names that exist, by category. -/
structure Catalog where
  tags : List NamedElement := []
  correspondents : List NamedElement := []
  documentTypes : List NamedElement := []
  storagePaths : List NamedElement := []
  customFields : List NamedElement := []
deriving DecidableEq, Repr

namespace Catalog

/-- The elements of a category. -/
def list (c : Catalog) : Category → List NamedElement
  | .tags => c.tags
  | .correspondents => c.correspondents
  | .documentTypes => c.documentTypes
  | .storagePaths => c.storagePaths
  | .customFields => c.customFields

/-- The catalog with one more element at the end of a category. -/
def add (c : Catalog) (category : Category) (e : NamedElement) : Catalog :=
  match category with
  | .tags => { c with tags := c.tags ++ [e] }
  | .correspondents => { c with correspondents := c.correspondents ++ [e] }
  | .documentTypes => { c with documentTypes := c.documentTypes ++ [e] }
  | .storagePaths => { c with storagePaths := c.storagePaths ++ [e] }
  | .customFields => { c with customFields := c.customFields ++ [e] }

/-- The first element of a category with exactly a name. -/
def find? (c : Catalog) (category : Category) (name : String) : Option NamedElement :=
  (c.list category).find? fun e => e.name == name

/-- The elements of a category whose name starts with a text, without regard to case, in the order
of their names. -/
def suggest (c : Catalog) (category : Category) (typed : String) : List NamedElement :=
  let start := Text.lowercase typed.toList
  ((c.list category).filter fun e => start.isPrefixOf (Text.lowercase e.name.toList)).mergeSort
    fun a b => decide (¬ b.name < a.name)

end Catalog

/-- A name in a category. -/
structure CategoryName where
  category : Category
  name : String
deriving DecidableEq, Repr

/-- The names that a condition refers to by itself. -/
def Check.ownNames : Check → List CategoryName
  | .correspondent name => [⟨.correspondents, name⟩]
  | .documentType name => [⟨.documentTypes, name⟩]
  | .storagePath name => [⟨.storagePaths, name⟩]
  | .tags includes excludes => (includes ++ excludes).map (⟨.tags, ·⟩)
  | _ => []

/-- The names that a pattern refers to: those of its checks, then those of its custom fields. -/
def Pattern.names (p : Pattern) : List CategoryName :=
  (Check.nodesOfAll p.checks).flatMap Check.ownNames ++
    (p.fields.filter fun f => f.kind == .custom).map fun f => ⟨.customFields, f.name⟩

/-- The names in the order of their first occurrence, each once. -/
def firstOccurrences : List CategoryName → List CategoryName
  | names => names.foldl (fun seen n => if seen.contains n then seen else seen ++ [n]) []

/-- The names of a pattern that are not in a catalog, each once. -/
def unknownNames (p : Pattern) (c : Catalog) : List CategoryName :=
  firstOccurrences (p.names.filter fun n => (c.find? n.category n.name).isNone)

end Dossier
