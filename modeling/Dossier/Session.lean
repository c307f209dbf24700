import Dossier.Evaluator
import Dossier.Wire.Document
import Dossier.Wire.Load
import Dossier.Wire.Pattern

/-!
# Sessions

A session looks at one document with an evaluator, which is made anew for each configuration and
each catalog that is set.

* `Session` : a document, an evaluator and the catalog for the next evaluator;
* `Session.change` : replaces the document, the configuration or the catalog;
* `Session.run` : several changes in turn, without those that fail.
-/

namespace Dossier

/-- A document that is looked at with an evaluator. -/
structure Session where
  document : Document
  evaluator : Evaluator := {}
  /-- The catalog that was set last. -/
  catalog : Option Catalog := none

namespace Session

/-- What can be replaced in a session. -/
inductive Change where
  | document (text : String)
  | config (value : Json)
  | catalog (text : String)

/-- The configuration that a value spells, if it can be used. -/
def readConfig (value : Json) : Except LoadFault Config := do
  (← (Config.ofJson value).mapError .mistyped).checked

/-- A new evaluator with a configuration and the catalog of the session. -/
def rebuilt (s : Session) (config : Config) : Evaluator :=
  match s.catalog with
  | some catalog => { config, catalog := some catalog }
  | none => { config }

/-- Replaces a part of a session. -/
def change (s : Session) : Change → Except LoadFault Session
  | .document text => do return { s with document := ← readAs Document.ofJson text }
  | .config value => do return { s with evaluator := s.rebuilt (← readConfig value) }
  | .catalog text => do
    let s := { s with catalog := some (← readAs Catalog.ofJson text) }
    return { s with evaluator := s.rebuilt s.evaluator.config }

/-- A session after a change. A change that fails leaves it as it is. -/
def next (s : Session) (c : Change) : Session :=
  match s.change c with
  | .ok t => t
  | .error _ => s

/-- A session after several changes in turn. -/
def run (s : Session) (changes : List Change) : Session := changes.foldl next s

/-- The text of an area on a page, if there is such a page. -/
def regionText? (s : Session) (page : Nat) (rect : Rectangle) : Option String :=
  s.document.pages[page]?.map fun p => p.regionText rect s.evaluator.config.layout.lineTopInset

/-- The results of a region. -/
def region (s : Session) (r : Region) : List RegionResult :=
  r.results s.document s.evaluator.config

/-- The names of a category that start with a text; none without a catalog. -/
def suggest (s : Session) (category : Json) (typed : String) : Except LoadFault (List String) :=
  match s.catalog with
  | none => .ok []
  | some catalog => do
    let category ← (Category.ofJson category).mapError .mistyped
    return (catalog.suggest category typed).map NamedElement.name

/-- What a pattern gives for the document. -/
def evaluate (s : Session) (p : Pattern) : Evaluation := s.evaluator.evaluate p s.document

/-- Which of several patterns the document matches. -/
def classify (s : Session) (ps : List Pattern) : Tally := s.evaluator.classify ps s.document

/-- Whether the document is to be classified. -/
def accepts (s : Session) : Bool := s.evaluator.accepts s.document

end Session

end Dossier
