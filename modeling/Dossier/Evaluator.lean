import Dossier.Check.Evaluate
import Dossier.Fields.Render
import Dossier.Tally

/-!
# Evaluation of patterns

* `Evaluator.evaluate` : what a pattern gives for a document;
* `Evaluator.classify` : which of several patterns a document matches;
* `Evaluator.classifyAll` : the same for all documents that are accepted.
-/

namespace Dossier

/-- Evaluates patterns under a configuration, with the names that exist if they are known. -/
structure Evaluator where
  config : Config := {}
  catalog : Option Catalog := none
  /-- What makes the values of fields from their templates. -/
  renderer : Renderer := renderText

namespace Evaluator

/-- What a pattern gives for a document. Each region is looked at once, also if conditions refer to
it. -/
def evaluate (v : Evaluator) (p : Pattern) (d : Document) : Evaluation :=
  let context : CheckContext := { document := d, config := v.config }
  let context := context.addRegions (p.regions ++ p.checkRegions)
  let regions := p.regions.map context.resultsOf
  let names := fieldContext d (regions.map retainedOf)
  { checks := Check.evaluateAll context p.checks
    regions
    fields := p.fields.map fun f => f.render names v.catalog v.renderer }

/-- Adds what one pattern gives for a document. A pattern with an error is no match. -/
def register (t : Tally) (d : Document) (p : Pattern) (e : Evaluation) : Tally :=
  match e.firstCheckError with
  | some error => t.addError ⟨d.id, d.title⟩ p.name error
  | none => if e.isMatch then t.addMatch d.id p.name else t

/-- Which of several patterns a document matches. -/
def classify (v : Evaluator) (ps : List Pattern) (d : Document) : Tally :=
  let t := ps.foldl (fun t p => register t d p (v.evaluate p d)) {}
  if t.matched.isEmpty then t.addUnmatched ⟨d.id, d.title⟩ else t

/-- Whether a document is to be classified: it has all required tags. -/
def accepts (v : Evaluator) (d : Document) : Bool :=
  v.config.processing.requiredTags.all d.hasTag

/-- Which patterns the accepted documents match. -/
def classifyAll (v : Evaluator) (ps : List Pattern) (ds : List Document) : Tally :=
  (ds.filter v.accepts).foldl (fun t d => t.merge (v.classify ps d)) {}

end Evaluator

end Dossier
