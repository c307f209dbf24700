import Dossier.Layout.Document
import Dossier.Wire.Record

/-!
# JSON form of documents

* `toJson` and `ofJson` for rectangles, text runs, pages and documents.
-/

namespace Dossier

namespace Rectangle

def toMembers (r : Rectangle) : List (String × Json) :=
  [("x", .float r.x), ("y", .float r.y), ("x2", .float r.x2), ("y2", .float r.y2)]

def toJson (r : Rectangle) : Json := .obj r.toMembers

def ofRecord (r : Record) : Decoded Rectangle := do
  let x ← r.field 0 "x" Json.asFloat
  let y ← r.field 1 "y" Json.asFloat
  let x2 ← r.field 2 "x2" Json.asFloat
  let y2 ← r.field 3 "y2" Json.asFloat
  return ⟨x, y, x2, y2⟩

def ofJson (j : Json) : Decoded Rectangle := do
  let r ← Record.of j
  let rect ← ofRecord r
  r.closed 4
  return rect

end Rectangle

namespace TextRun

def toJson (run : TextRun) : Json := .obj (run.rect.toMembers ++ [("text", .str run.text)])

def ofJson (j : Json) : Decoded TextRun := do
  let r ← Record.ofObject j
  let text ← r.field 0 "text" Json.asString
  let rect ← Rectangle.ofRecord r
  return ⟨rect, text⟩

end TextRun

namespace Page

def toJson (p : Page) : Json :=
  .obj [("width", .float p.width), ("height", .float p.height),
    ("text_runs", .ofList TextRun.toJson p.runs)]

def ofJson (j : Json) : Decoded Page := do
  let r ← Record.of j
  let width ← r.fieldOr 0 "width" 0 Json.asFloat
  let height ← r.fieldOr 1 "height" 0 Json.asFloat
  let runs ← r.fieldOr 2 "text_runs" [] (Json.asList TextRun.ofJson)
  r.closed 3
  return { width, height, runs }

end Page

def Date.toJson (d : Date) : Json := .str d.isoString

def Date.ofJson : Json → Decoded Date := Json.asText Calendar.readJsonDate?

def Moment.toJson (m : Moment) : Json := .str m.text

def Moment.ofJson : Json → Decoded Moment := Json.asText Moment.read?

namespace Document

/-- The time at which a document was added and its address are left out when they are not set. -/
def toJson (d : Document) : Json :=
  .obj ([("id", .ofNat d.id), ("title", .str d.title),
    ("correspondent", .ofOptionString d.correspondent),
    ("document_type", .ofOptionString d.documentType),
    ("storage_path", .ofOptionString d.storagePath), ("tags", .ofList .str d.tags),
    ("date_created", .ofOption Date.toJson d.dateCreated)] ++
    (d.added.map fun m => ("datetime_added", m.toJson)).toList ++
    (d.url.map fun url => ("paperless_url", .str url)).toList ++
    [("pages", .ofList Page.toJson d.pages)])

def ofJson (j : Json) : Decoded Document := do
  let r ← Record.of j
  let id ← r.field 0 "id" Json.asNat
  let title ← r.fieldOr 1 "title" "" Json.asString
  let correspondent ← r.fieldOr 2 "correspondent" none (Json.asOption Json.asString)
  let documentType ← r.fieldOr 3 "document_type" none (Json.asOption Json.asString)
  let storagePath ← r.fieldOr 4 "storage_path" none (Json.asOption Json.asString)
  let tags ← r.fieldOr 5 "tags" [] (Json.asList Json.asString)
  let dateCreated ← r.fieldOr 6 "date_created" none (Json.asOption Date.ofJson)
  let added ← r.fieldOr 7 "datetime_added" none (Json.asOption Moment.ofJson)
  let url ← r.fieldOr 8 "paperless_url" none (Json.asOption Json.asString)
  let pages ← r.fieldOr 9 "pages" [] (Json.asList Page.ofJson)
  r.closed 10
  return ⟨id, title, correspondent, documentType, storagePath, tags, dateCreated, added, url, pages⟩

end Document

end Dossier
