import Dossier.Pattern
import Dossier.Wire.Document

/-!
# JSON form of patterns

* `toJson` and `ofJson` for page selectors, regions, checks, fields and patterns.

A region has the edges of its rectangle and the parts of its expression as members of its own. A
check has its sort as the member `type`.
-/

namespace Dossier

namespace PageSelector

def names : List (String × PageSelector) :=
  [("first_page", firstPage), ("last_page", lastPage), ("first_match", firstMatch),
    ("last_match", lastMatch)]

/-- A natural number of 64 bits read as an integer of 64 bits with a sign. -/
def signed64 (n : Nat) : Int := if n < twoTo 63 then (n : Int) else (n : Int) - twoTo 64

def toJson : PageSelector → Json
  | exactPage index => .int (signed64 index)
  | firstPage => .str "first_page"
  | lastPage => .str "last_page"
  | firstMatch => .str "first_match"
  | lastMatch => .str "last_match"

/-- A page number or a name; the number -1 stands for the last page. -/
def ofJson (j : Json) : Decoded PageSelector :=
  match j with
  | .int n =>
    if n = -1 then .ok lastPage
    else if 0 ≤ n ∧ n < twoTo 63 then .ok (exactPage n.toNat)
    else .error .invalidValue
  | j => j.asName names

end PageSelector

namespace Notation

def names : List (String × Notation) := [("simple", simple), ("regex", regex)]

def toJson : Notation → Json
  | simple => .str "simple"
  | regex => .str "regex"

def ofJson : Json → Decoded Notation := Json.asName names

end Notation

namespace Region

def toMembers (r : Region) : List (String × Json) :=
  r.rect.toMembers ++
    [("page", r.page.toJson), ("kind", r.expression.kind.toJson),
      ("simple_expr", .ofOptionString r.expression.simpleText),
      ("regex_expr", .ofOptionString r.expression.regexText)]

def toJson (r : Region) : Json := .obj r.toMembers

def ofJson (j : Json) : Decoded Region := do
  let r ← Record.ofObject j
  let page ← r.fieldOr 0 "page" .lastMatch PageSelector.ofJson
  let rect ← Rectangle.ofRecord r
  let kind ← r.fieldOr 0 "kind" .simple Notation.ofJson
  let simpleText ← r.fieldOr 0 "simple_expr" none (Json.asOption Json.asString)
  let regexText ← r.fieldOr 0 "regex_expr" none (Json.asOption Json.asString)
  return { rect, page, expression := { kind, simpleText, regexText } }

end Region

namespace Check

mutual

def toJson : Check → Json
  | pageCount count => .obj [("type", .str "num_pages"), ("num_pages", .ofNat count)]
  | region r => .obj (("type", .str "region") :: r.toMembers)
  | title pattern => .obj [("type", .str "title"), ("regex", .str pattern)]
  | correspondent name => .obj [("type", .str "correspondent"), ("name", .str name)]
  | documentType name => .obj [("type", .str "document_type"), ("name", .str name)]
  | storagePath name => .obj [("type", .str "storage_path"), ("name", .str name)]
  | tags includes excludes =>
    .obj [("type", .str "tags"), ("includes", .ofList .str includes),
      ("excludes", .ofList .str excludes)]
  | dateCreated before after year =>
    .obj [("type", .str "date_created"), ("before", .ofOption Date.toJson before),
      ("after", .ofOption Date.toJson after), ("year", .ofOption .int year)]
  | allOf checks => .obj [("type", .str "and"), ("checks", .arr (toJsonAll checks))]
  | anyOf checks => .obj [("type", .str "or"), ("checks", .arr (toJsonAll checks))]
  | negation none => .obj [("type", .str "not"), ("check", .null)]
  | negation (some check) => .obj [("type", .str "not"), ("check", toJson check)]

def toJsonAll : List Check → List Json
  | [] => []
  | check :: rest => toJson check :: toJsonAll rest

end

/-- The sort of a check and its fields without the sort. In an array the sort comes first. -/
def splitType (j : Json) : Decoded (String × Record) :=
  match j with
  | .obj members =>
    match members.filter fun m => m.1 == "type" with
    | [(_, .str name)] => .ok (name, .members (members.filter fun m => m.1 != "type"))
    | [] => .error .missingField
    | [_] => .error .invalidType
    | _ => .error .duplicateField
  | .arr (.str name :: elements) => .ok (name, .elements elements)
  | .arr [] => .error .missingField
  | _ => .error .invalidType

/-- The check of one name. -/
def ofNameRecord (make : String → Check) (r : Record) : Decoded Check := do
  let name ← r.field 0 "name" Json.asString
  r.closed 1
  return make name

/-- The check of a sort and its fields, given how to decode the checks in it. -/
def ofRecord (inner : Json → Decoded Check) (name : String) (r : Record) : Decoded Check := do
  match name with
  | "num_pages" =>
    let count ← r.field 0 "num_pages" Json.asNat
    r.closed 1
    return pageCount count
  | "region" =>
    match r with
    | .members ms => return region (← Region.ofJson (.obj ms))
    | .elements _ => .error .invalidType
  | "title" =>
    let pattern ← r.field 0 "regex" Json.asString
    r.closed 1
    return title pattern
  | "correspondent" => ofNameRecord correspondent r
  | "document_type" => ofNameRecord documentType r
  | "storage_path" => ofNameRecord storagePath r
  | "tags" =>
    let includes ← r.fieldOr 0 "includes" [] (Json.asList Json.asString)
    let excludes ← r.fieldOr 1 "excludes" [] (Json.asList Json.asString)
    r.closed 2
    return tags includes excludes
  | "date_created" =>
    let before ← r.fieldOr 0 "before" none (Json.asOption Date.ofJson)
    let after ← r.fieldOr 1 "after" none (Json.asOption Date.ofJson)
    let year ← r.fieldOr 2 "year" none (Json.asOption Json.asInt32)
    r.closed 3
    return dateCreated before after year
  | "and" =>
    let checks ← r.fieldOr 0 "checks" [] (Json.asList inner)
    r.closed 1
    return allOf checks
  | "or" =>
    let checks ← r.fieldOr 0 "checks" [] (Json.asList inner)
    r.closed 1
    return anyOf checks
  | "not" =>
    let check ← r.fieldOr 0 "check" none (Json.asOption inner)
    r.closed 1
    return negation check
  | _ => .error .invalidValue

/-- The check of a JSON value, in which checks are nested less deep than a bound. -/
def ofJsonWithin : Nat → Json → Decoded Check
  | 0, _ => .error .invalidValue
  | bound + 1, j => do
    let (name, r) ← splitType j
    ofRecord (ofJsonWithin bound) name r

end Check

/-- The check of a JSON value. -/
def Check.ofJson (j : Json) : Decoded Check := Check.ofJsonWithin (j.depth + 1) j

namespace FieldKind

def toJson : FieldKind → Json
  | builtIn => .str "attr"
  | custom => .str "custom"

def ofJson : Json → Decoded FieldKind := Json.asName [("attr", builtIn), ("custom", custom)]

end FieldKind

namespace Field

def toJson (f : Field) : Json :=
  .obj [("kind", f.kind.toJson), ("name", .str f.name), ("template", .str f.template)]

def ofJson (j : Json) : Decoded Field := do
  let r ← Record.of j
  let kind ← r.fieldOr 0 "kind" .custom FieldKind.ofJson
  let name ← r.field 1 "name" Json.asString
  let template ← r.field 2 "template" Json.asString
  r.closed 3
  return { kind, name, template }

end Field

def Preprocess.toJson : Preprocess → Json
  | .forceOcr => .str "force-ocr"

def Preprocess.ofJson : Json → Decoded Preprocess := Json.asName [("force-ocr", .forceOcr)]

namespace Pattern

def toJson (p : Pattern) : Json :=
  .obj [("name", .str p.name), ("page_default", .ofNat p.pageDefault),
    ("preprocess", .ofOption Preprocess.toJson p.preprocess),
    ("checks", .arr (Check.toJsonAll p.checks)), ("regions", .ofList Region.toJson p.regions),
    ("fields", .ofList Field.toJson p.fields)]

def ofJson (j : Json) : Decoded Pattern := do
  let r ← Record.of j
  let name ← r.field 0 "name" Json.asString
  let pageDefault ← r.fieldOr 1 "page_default" 0 Json.asNat
  let preprocess ← r.fieldOr 2 "preprocess" none (Json.asOption Preprocess.ofJson)
  let checks ← r.fieldOr 3 "checks" [] (Json.asList Check.ofJson)
  let regions ← r.fieldOr 4 "regions" [] (Json.asList Region.ofJson)
  let fields ← r.fieldOr 5 "fields" [] (Json.asList Field.ofJson)
  r.closed 6
  return { name, pageDefault, preprocess, checks, regions, fields }

end Pattern

end Dossier
