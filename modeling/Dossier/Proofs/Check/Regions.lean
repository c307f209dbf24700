import Dossier.Proofs.Check.Known
import Dossier.Proofs.Region.Results

/-!
# Verdicts on regions

A condition on a region is broken if the expression of the region does not compile, whichever page
is to be kept and however many pages there are. If the expression compiles, then the condition
holds if something of use is found on the page that is kept.

* `RegionResult.hasValue_iff` : what is of use on a page;
* `Region.check_of_error` : the verdict if the expression does not compile;
* `Region.check_passed`, `Region.passed_after` : when the condition holds;
* `region_verdict` : the verdict in either case.
-/

namespace Dossier

/-- A verdict without parts that has an error did not pass. -/
theorem CheckResult.Plain.eq_failed {r : CheckResult} {error : String} (h : r.Plain)
    (herror : r.error = some error) : r = .failed error := by
  obtain ⟨passed, _, children⟩ := r
  obtain rfl : children = [] := h.children
  cases herror
  cases passed with
  | false => rfl
  | true => cases h.error rfl

/-- There is something of use in a match without groups, or with text in a group. -/
theorem RegionResult.hasValue_iff {result : RegionResult} {groups : List String} :
    result.hasValue groups = true ↔ ∃ values, result.values = some values ∧
      (groups = [] ∨ ∃ name ∈ groups, ∃ value, values.lookup name = some value ∧ value ≠ "") := by
  unfold hasValue
  cases result.values with
  | none => simp
  | some values => simp [Option.any_eq_true]

/-! ## Regions in a context -/

namespace Region

variable {ctx : CheckContext} {r : Region}

theorem check_of_error (h : ctx.Proper) {e : ExpressionError}
    (he : r.compile ctx.config.expression.sizeLimit = .error e) :
    r.check ctx = .failed e.message :=
  (r.plain_check ctx).eq_failed (by rw [check_error h, fault, he]; rfl)

/-- The condition holds if there is something of use on the page that is kept. -/
theorem check_passed (h : ctx.Proper) {c : Compiled}
    (hc : r.compile ctx.config.expression.sizeLimit = .ok c) :
    (r.check ctx).passed = true ↔
      ∃ kept, retainedOf (ctx.resultsOf r) = some kept ∧ kept.hasValue c.groupNames = true := by
  have herror : ∀ result ∈ ctx.resultsOf r, result.error = none := by
    intro result hresult
    rw [h.resultsOf_error hresult, fault, hc]
    rfl
  unfold check
  simp only [hc]
  cases hkept : retainedOf (ctx.resultsOf r) with
  | some kept =>
    have hmem : kept ∈ ctx.resultsOf r := List.mem_of_find?_eq_some hkept
    simp [herror kept hmem, CheckResult.ofBool, CheckResult.passed]
  | none =>
    -- the first page has no error either, so that the condition just does not hold
    refine iff_of_false ?_ (by simp)
    cases hresults : ctx.resultsOf r with
    | nil => exact Bool.false_ne_true
    | cons first others =>
      simp only [herror first (by simp [hresults])]
      exact Bool.false_ne_true

/-- The same with any results of regions known before. -/
theorem passed_after (d : Document) {config : Config} (rs : List Region) {c : Compiled}
    (hc : r.compile config.expression.sizeLimit = .ok c) :
    ((Check.region r).evaluate (CheckContext.after d config rs)).passed = true ↔
      ∃ kept ∈ r.results d config, kept.isRetained = true ∧
        kept.hasValue c.groupNames = true := by
  have hpassed := check_passed (CheckContext.proper_after d config rs)
    (r := r) (c := c) (by rw [CheckContext.after_config, hc])
  rw [CheckContext.resultsOf_after] at hpassed
  simp only [retainedOf_results, and_assoc] at hpassed
  exact hpassed

end Region

/-- The verdict on a region, whichever results of regions are known before. An expression that does
not compile gives its error, and nothing else gives one. Otherwise the verdict is on the page that
is kept: there must be a match, and text in some group if there are groups. -/
theorem region_verdict (d : Document) (config : Config) (rs : List Region) (r : Region) :
    let verdict := (Check.region r).evaluate (CheckContext.after d config rs)
    match r.compile config.expression.sizeLimit with
    | .error e => verdict = .failed e.message
    | .ok c => verdict.error = none ∧ (verdict.passed = true ↔
        ∃ kept ∈ r.results d config, kept.isRetained = true ∧ kept.text ≠ "" ∧
          ∃ found, c.find kept.text = some found ∧ (c.groupNames = [] ∨
            ∃ name ∈ c.groupNames, ∃ value,
              found.values.lookup name = some value ∧ value ≠ "")) := by
  intro verdict
  let ctx := CheckContext.after d config rs
  have hproper : ctx.Proper := CheckContext.proper_after d config rs
  have hconfig : ctx.config = config := CheckContext.after_config d config rs
  have hverdict : verdict = r.check ctx := Check.evaluate_leaf ctx rfl
  cases hcompile : r.compile config.expression.sizeLimit with
  | error e =>
    rw [hverdict]
    exact Region.check_of_error hproper (by rw [hconfig, hcompile])
  | ok c =>
    refine ⟨?_, ?_⟩
    · rw [hverdict, Region.check_error hproper, hconfig, Region.fault, hcompile]
      rfl
    rw [Region.passed_after d rs hcompile]
    simp only [RegionResult.hasValue_iff]
    constructor
    · rintro ⟨kept, hkept, hretained, values, hvalues, htext⟩
      obtain ⟨hne, c', found, hc, hfound, rfl⟩ := (Region.results_values hkept).mp hvalues
      obtain rfl : c = c' := Except.ok.inj (hcompile.symm.trans hc)
      exact ⟨kept, hkept, hretained, hne, found, hfound, htext⟩
    · rintro ⟨kept, hkept, hretained, hne, found, hfound, htext⟩
      exact ⟨kept, hkept, hretained, found.values,
        (Region.results_values hkept).mpr ⟨hne, c, found, hcompile, hfound, rfl⟩, htext⟩

end Dossier
