import Dossier.Evaluator
import Dossier.Proofs.Entries
import Dossier.Proofs.Expression.Places
import Dossier.Proofs.Expression.Values
import Dossier.Proofs.Layout.Placement
import Dossier.Proofs.Region.Results

/-!
# Values in the results of regions

The values in a result of a region come from a match of its expression. Each name stands once, and
the names are those of groups in the expression.

* `Pattern.kept` : what is kept of the regions of a pattern;
* `Region.results_increasing` : each name stands once in a result of a region;
* `Region.isPlaceholderName_of_simple` : with a simple expression it is one of a placeholder;
* `kept_of_single`, `kept_of_corner` : what is kept of a region with the only text of a document in
  it.
-/

namespace Dossier

open Regex

/-- What is kept of the regions of a pattern, in their order. -/
def Pattern.kept (p : Pattern) (d : Document) (config : Config) : List (Option RegionResult) :=
  p.regions.map fun r => retainedOf (r.results d config)

/-- The groups of a simple expression have names of placeholders. -/
theorem isPlaceholderName_of_mem_groupNames {e : String} {limit : Nat} {c : Compiled}
    (h : (Expression.simple e).compile limit = .ok c) {name : String}
    (hname : name ∈ c.groupNames) : isPlaceholderName name.toList = true := by
  obtain ⟨items, hitems, -⟩ := compile_simple h
  rw [groupNames_of_readItems h hitems] at hname
  exact (properNames_readItems hitems).2 name hname

/-! ## Regions -/

namespace Region

variable {r : Region} {d : Document} {config : Config} {result : RegionResult}
  {values : List (String × String)}

theorem results_increasing (h : result ∈ r.results d config)
    (hvalues : result.values = some values) : Increasing values := by
  obtain ⟨-, c, found, -, hfound, rfl⟩ := (results_values h).mp hvalues
  exact find_increasing hfound

/-- The values in the results of a simple expression have names of placeholders. -/
theorem isPlaceholderName_of_simple (hkind : r.expression.kind = .simple)
    (h : result ∈ r.results d config) (hvalues : result.values = some values) {name : String}
    (hname : name ∈ values.map Prod.fst) : isPlaceholderName name.toList = true := by
  obtain ⟨-, c, found, hc, hfound, rfl⟩ := (results_values h).mp hvalues
  have hsimple : (Expression.simple (r.expression.simpleText.getD "")).compile
      config.expression.sizeLimit = .ok c := by
    rw [← hc, compile, RegionExpression.active, hkind]
  exact isPlaceholderName_of_mem_groupNames hsimple (find_names hfound hname)

end Region

/-! ## Documents with one text -/

/-- What a simple expression finds in a text. -/
theorem extract_simple {e text : String} {limit : Nat} {items : List Item} {found : GroupMatch}
    (hitems : readItems e = .ok items) (hfits : (treeOf items).fits limit = true)
    (htext : text.isEmpty = false)
    (hfound :
      let c : Compiled := ⟨.simple e, String.ofList (patternOf items), treeOf items⟩
      ((Node.ofTree (treeOf items) 0).1.leftmost none 0 text.toList).map (fun m =>
        { values := entriesOf ((c.captured m).map fun g => (g.1, Compiled.cut text.toList g.2))
          positions := (c.captured m).map Prod.snd : GroupMatch }) = some found) :
    extract ((Expression.simple e).compile limit) text =
      { text, values := some found.values, positions := some found.positions } := by
  let c : Compiled := ⟨.simple e, String.ofList (patternOf items), treeOf items⟩
  have hfind : c.find text = some found := by
    have hflat : (Node.ofTree (treeOf items) 0).1.Flat := flat_treesFrom items 1 0
    show (search (treeOf items) text.toList).map _ = _
    rw [search_eq_leftmost hflat]
    exact hfound
  rw [compile_of_readItems hitems hfits, extract]
  simp only [htext, Bool.false_eq_true, if_false]
  rw [hfind]

/-- What is kept of a region that matches the only text of a document. -/
theorem kept_of_single {e : Expression} {rect : Rectangle} {d : Document} {config : Config}
    {page : Page} {run : TextRun} (hpages : d.pages = [page]) (hruns : page.runsIn rect = [run])
    (harea : rect.normalized.isEmpty = false) {values : List (String × String)}
    {positions : List (Nat × Nat)}
    (hextract : extract (e.compile config.expression.sizeLimit) run.text =
      { text := run.text, values := some values, positions := some positions }) :
    retainedOf (({ rect, expression := e.toRegionExpression } : Region).results d config) =
      some { text := run.text, values := some values, positions := some positions
             isRetained := true } := by
  have hactive : e.toRegionExpression.active = e := by cases e <;> rfl
  rw [Region.results, hpages, List.map_singleton, regionText_of_single hruns harea, Region.compile,
    hactive, hextract]
  rfl

/-- The only text of a document stands in a corner of its page, and a region has all of it. -/
theorem kept_of_corner {e : Expression} {d : Document} {config : Config} {text : String}
    (hpages : d.pages = [{ runs := [⟨⟨10, 10, 50, 20⟩, text⟩] }])
    {values : List (String × String)} {positions : List (Nat × Nat)}
    (hextract : extract (e.compile config.expression.sizeLimit) text =
      { text, values := some values, positions := some positions }) :
    retainedOf (({ rect := ⟨0, 0, 100, 100⟩, expression := e.toRegionExpression } :
        Region).results d config) =
      some { text, values := some values, positions := some positions, isRetained := true } := by
  have hcorner : (Rectangle.mk 0 0 100 100).normalized.isEmpty = false ∧
      (Rectangle.mk 0 0 100 100).normalized.contains
        (Rectangle.mk 10 10 50 20).normalized = true := by
    decide +kernel
  exact kept_of_single hpages (List.filter_cons_of_pos hcorner.2) hcorner.1 hextract

end Dossier
