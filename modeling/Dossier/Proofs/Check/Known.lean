import Dossier.Proofs.Check.Faults
import Dossier.Proofs.Layout.Corners

/-!
# Known results of regions

A context keeps the results of regions and gives them for every region that is the same but for the
way its edges are written. They are what the region would give anew, so that nothing depends on
which results are known.

* `Region.results_of_same` : regions with equal edges have the same results;
* `CheckContext.Proper.resultsOf_eq` : known results are those of the region;
* `CheckContext.Agree.evaluate_eq` : what verdicts depend on;
* `evaluate_eq_plain` : a pattern is evaluated as if no results were known.
-/

namespace Dossier

/-- Regions that are the same but for the way their edges are written have the same results. -/
theorem Region.results_of_same {a b : Region} (h : a.same b = true) (d : Document)
    (config : Config) : a.results d config = b.results d config := by
  simp only [same, Bool.and_eq_true, beq_iff_eq] at h
  obtain ⟨⟨hrect, hpage⟩, hexpression⟩ := h
  unfold results compile
  simp only [Page.regionText_of_same _ hrect, hpage, hexpression]

/-! ## Contexts -/

namespace CheckContext

variable {ctx : CheckContext}

/-- The results of a region are what it gives, known or not. -/
theorem Proper.resultsOf_eq (h : ctx.Proper) (r : Region) :
    ctx.resultsOf r = r.results ctx.document ctx.config := by
  unfold resultsOf cached?
  cases hk : ctx.known.find? fun k => k.1.same r with
  | none => rfl
  | some k =>
    have hsame := List.find?_some hk
    rw [Option.map_some, Option.getD_some, h k (List.mem_of_find?_eq_some hk),
      Region.results_of_same hsame]

theorem addRegion_document (ctx : CheckContext) (r : Region) :
    (ctx.addRegion r).document = ctx.document := by
  unfold addRegion
  split <;> rfl

theorem addRegions_document (ctx : CheckContext) (rs : List Region) :
    (ctx.addRegions rs).document = ctx.document := by
  unfold addRegions
  induction rs generalizing ctx with
  | nil => rfl
  | cons r rs ih => rw [List.foldl_cons, ih, addRegion_document]

theorem after_document (d : Document) (config : Config) (rs : List Region) :
    (after d config rs).document = d := addRegions_document _ rs

theorem resultsOf_after (d : Document) (config : Config) (rs : List Region) (r : Region) :
    (after d config rs).resultsOf r = r.results d config := by
  rw [(proper_after d config rs).resultsOf_eq, after_document, after_config]

end CheckContext

/-! ## Verdicts -/

/-- Two contexts that tell the same of a document. -/
structure CheckContext.Agree (ctx ctx' : CheckContext) : Prop where
  document : ctx.document = ctx'.document
  config : ctx.config = ctx'.config
  results : ∀ r, ctx.resultsOf r = ctx'.resultsOf r

namespace CheckContext.Agree

variable {ctx ctx' : CheckContext}

theorem leaf_eq (h : ctx.Agree ctx') (check : Check) : check.leaf ctx = check.leaf ctx' := by
  cases check with
  | region r => simp only [Check.leaf, Region.check, h.config, h.results]
  | title pattern => simp only [Check.leaf, h.config, h.document]
  | _ => simp only [Check.leaf, h.document]

/-- Verdicts depend on what the context tells of the document. -/
theorem evaluate_eq (h : ctx.Agree ctx') (check : Check) :
    check.evaluate ctx = check.evaluate ctx' := Check.evaluate_congr fun c _ => h.leaf_eq c

end CheckContext.Agree

/-- The results that are known make no difference. -/
theorem agree_after (d : Document) (config : Config) (rs : List Region) :
    (CheckContext.after d config rs).Agree { document := d, config } where
  document := CheckContext.after_document d config rs
  config := CheckContext.after_config d config rs
  results := CheckContext.resultsOf_after d config rs

/-- A pattern is evaluated as if no results of regions were known. -/
theorem evaluate_eq_apart (v : Evaluator) (p : Pattern) (d : Document) :
    v.evaluate p d = {
      checks := p.checks.map (Check.evaluate { document := d, config := v.config })
      regions := p.regions.map fun r => r.results d v.config
      fields := p.fields.map fun f =>
        f.render (fieldContext d ((p.regions.map fun r => r.results d v.config).map retainedOf))
          v.catalog v.renderer } := by
  let ctx := CheckContext.after d v.config (p.regions ++ p.checkRegions)
  have hregions : p.regions.map ctx.resultsOf = p.regions.map fun r => r.results d v.config :=
    List.map_congr_left fun r _ => CheckContext.resultsOf_after d v.config _ r
  have hchecks : Check.evaluateAll ctx p.checks =
      p.checks.map (Check.evaluate { document := d, config := v.config }) := by
    rw [Check.evaluateAll_eq]
    exact List.map_congr_left fun check _ => (agree_after d v.config _).evaluate_eq check
  show Evaluation.mk (Check.evaluateAll ctx p.checks) (p.regions.map ctx.resultsOf)
    (p.fields.map fun f => f.render (fieldContext d ((p.regions.map ctx.resultsOf).map retainedOf))
      v.catalog v.renderer) = _
  rw [hregions, hchecks]

/-- A pattern is evaluated as if no results of regions were known: each check by itself, each region
by itself, and the fields from what is kept of the regions. The verdict of a check and the results
of a region are the same whichever regions have been made known before. -/
theorem evaluate_eq_plain (v : Evaluator) (p : Pattern) (d : Document) :
    let plain : CheckContext := { document := d, config := v.config }
    let regions := p.regions.map fun r => r.results d v.config
    let names := fieldContext d (regions.map retainedOf)
    v.evaluate p d = {
      checks := p.checks.map (Check.evaluate plain)
      regions
      fields := p.fields.map fun f => f.render names v.catalog v.renderer } ∧
    ∀ rs : List Region,
      (∀ check : Check,
        check.evaluate (CheckContext.after d v.config rs) = check.evaluate plain) ∧
      ∀ r : Region, (CheckContext.after d v.config rs).resultsOf r = r.results d v.config := by
  intro plain regions names
  refine ⟨evaluate_eq_apart v p d, fun rs => ⟨fun check => ?_, fun r => ?_⟩⟩
  · exact (agree_after d v.config rs).evaluate_eq check
  · exact CheckContext.resultsOf_after d v.config rs r

end Dossier
