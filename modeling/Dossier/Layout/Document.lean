import Dossier.Calendar.Moment
import Dossier.Layout.Rectangle

/-!
# Documents

* `TextRun` : a piece of text with its place on a page;
* `Page` : the text runs of a page in the order in which they were found;
* `Document` : pages with what is known about the document.
-/

namespace Dossier

/-- A piece of text with its place on a page. -/
structure TextRun where
  rect : Rectangle
  text : String
deriving Inhabited

/-- A page with its size and its text. -/
structure Page where
  width : Float := 0
  height : Float := 0
  runs : List TextRun := []

/-- A document with its metadata. -/
structure Document where
  id : Nat
  title : String := ""
  correspondent : Option String := none
  documentType : Option String := none
  storagePath : Option String := none
  tags : List String := []
  dateCreated : Option Date := none
  added : Option Moment := none
  url : Option String := none
  pages : List Page := []

/-- Whether a document carries a tag. -/
def Document.hasTag (d : Document) (tag : String) : Bool := d.tags.contains tag

end Dossier
