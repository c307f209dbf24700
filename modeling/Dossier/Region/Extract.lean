import Dossier.Expression.Compiled
import Dossier.Layout.Lines
import Dossier.Config
import Dossier.Pattern
import Dossier.Results

/-!
# Results of regions

* `extract` : what a compiled expression finds in the text of one page;
* `resolve`, `retain`, `keep` : which page's result is kept;
* `Region.results` : the results of a region on all pages of a document.
-/

namespace Dossier

/-- What an expression finds in the text of one page. An expression that does not compile gives its
error on every page, and an empty text holds no match. -/
def extract (compiled : Except ExpressionError Compiled) (text : String) : RegionResult :=
  match compiled with
  | .error e => { text, error := some e.message }
  | .ok c =>
    if text.isEmpty then { text }
    else match c.find text with
      | some found => { text, values := some found.values, positions := some found.positions }
      | none => { text }

/-- What can be found in the text of a page: an error, nothing, or a match. -/
theorem extract_cases (compiled : Except ExpressionError Compiled) (text : String) :
    (∃ e, compiled = .error e ∧ extract compiled text = { text, error := some e.message }) ∨
    (∃ c, compiled = .ok c ∧ (text = "" ∨ c.find text = none) ∧ extract compiled text = { text }) ∨
    ∃ c found, compiled = .ok c ∧ text ≠ "" ∧ c.find text = some found ∧
      extract compiled text =
        { text, values := some found.values, positions := some found.positions } := by
  cases compiled with
  | error e => exact .inl ⟨e, rfl, rfl⟩
  | ok c =>
    refine .inr ?_
    by_cases hempty : text.isEmpty = true
    · exact .inl ⟨c, rfl, .inl (String.isEmpty_iff.mp hempty), by simp [extract, hempty]⟩
    · have hne : text ≠ "" := fun h => hempty (String.isEmpty_iff.mpr h)
      cases hfound : c.find text with
      | none => exact .inl ⟨c, rfl, .inr hfound, by simp [extract, hempty, hfound]⟩
      | some found => exact .inr ⟨c, found, rfl, hne, hfound, by simp [extract, hempty, hfound]⟩

/-- The number of the page that a selector picks out of the results, if any. A number beyond the
last page picks none. -/
def resolve (results : List RegionResult) (selector : PageSelector) : Option Nat :=
  match selector with
  | .exactPage index => if index < results.length then some index else none
  | .firstPage => if results.isEmpty then none else some 0
  | .lastPage => if results.isEmpty then none else some (results.length - 1)
  | .firstMatch => results.findIdx? RegionResult.hasMatch
  | .lastMatch =>
    (results.reverse.findIdx? RegionResult.hasMatch).map fun i => results.length - 1 - i

/-- The results with the one that a selector picks marked as kept, and no other. -/
def retain (results : List RegionResult) (selector : PageSelector) : List RegionResult :=
  let kept := resolve results selector
  results.mapIdx fun i r => { r with isRetained := kept == some i }

/-- Marks the result that a selector picks as kept, and no other, and gives its number. -/
def keep (selector : PageSelector) : StateM (List RegionResult) (Option Nat) := do
  let results ← get
  set (retain results selector)
  return resolve results selector

/-- The active expression of a region, compiled. -/
def Region.compile (r : Region) (sizeLimit : Nat) : Except ExpressionError Compiled :=
  r.expression.active.compile sizeLimit

/-- The results of a region on the pages of a document, one for each page. -/
def Region.results (r : Region) (d : Document) (config : Config) : List RegionResult :=
  let compiled := r.compile config.expression.sizeLimit
  let found := d.pages.map fun page =>
    extract compiled (page.regionText r.rect config.layout.lineTopInset)
  retain found r.page

/-- Every result of a region is what its expression finds on some page, kept or not. -/
theorem Region.mem_results {r : Region} {d : Document} {config : Config} {result : RegionResult}
    (h : result ∈ r.results d config) :
    ∃ page ∈ d.pages, ∃ kept : Bool, result =
      { extract (r.compile config.expression.sizeLimit)
          (page.regionText r.rect config.layout.lineTopInset) with isRetained := kept } := by
  obtain ⟨i, hi, rfl⟩ := List.mem_mapIdx.mp h
  rw [List.length_map] at hi
  exact ⟨d.pages[i], List.getElem_mem hi, _, by rw [List.getElem_map]⟩

end Dossier
