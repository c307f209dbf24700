import Dossier.Evaluator
import Dossier.Proofs.Check.Tree

/-!
# Errors of conditions

A condition is broken if it has an expression that does not compile. The verdict of a condition
carries the error of the first broken condition in it, unless it passed.

* `Check.fault` : the error of a broken condition;
* `CheckContext.Proper` : the known results of regions are their results, as they are in every
  context that is built up region by region (`CheckContext.proper_after`);
* `leaf_error` : the verdict of a condition without parts has an error just if it is broken;
* `evaluate_firstError`, `evaluate_error` : the errors in the verdict of a condition;
* `evaluate_faults` : the same in terms of the expressions, and for a whole pattern.
-/

namespace Dossier

/-! ## Expressions that do not compile -/

/-- The error of an expression that does not compile. -/
def errorOf {α : Type} : Except ExpressionError α → Option String
  | .ok _ => none
  | .error e => some e.message

/-- The error of a region whose expression does not compile. -/
def Region.fault (config : Config) (r : Region) : Option String :=
  errorOf (r.compile config.expression.sizeLimit)

/-- The error of a condition that has an expression which does not compile. Only titles and regions
have expressions. -/
def Check.fault (config : Config) : Check → Option String
  | region r => r.fault config
  | title pattern => errorOf (compilePattern pattern config.expression.sizeLimit)
  | _ => none

/-- The error of the first broken condition in a condition. -/
def Check.firstFault (config : Config) (check : Check) : Option String :=
  check.nodes.findSome? (Check.fault config)

theorem extract_error (compiled : Except ExpressionError Compiled) (text : String) :
    (extract compiled text).error = errorOf compiled := by
  rcases extract_cases compiled text with ⟨e, rfl, h⟩ | ⟨c, rfl, -, h⟩ | ⟨c, found, rfl, -, -, h⟩ <;>
    (rw [h]; rfl)

/-- All results of a region carry the error of its expression. -/
theorem Region.results_error {r : Region} {d : Document} {config : Config} {result : RegionResult}
    (h : result ∈ r.results d config) : result.error = r.fault config := by
  obtain ⟨page, -, kept, rfl⟩ := mem_results h
  exact extract_error _ _

/-- Regions that differ in the way they are written only have the same error. -/
theorem Region.fault_of_same {a b : Region} (h : a.same b = true) (config : Config) :
    a.fault config = b.fault config := by
  simp only [same, Bool.and_eq_true, beq_iff_eq] at h
  simp [fault, compile, h.2]

/-! ## Contexts -/

namespace CheckContext

/-- The known results of regions are their results. -/
def Proper (ctx : CheckContext) : Prop :=
  ∀ k ∈ ctx.known, k.2 = k.1.results ctx.document ctx.config

variable {ctx : CheckContext}

theorem Proper.addRegion (h : ctx.Proper) (r : Region) : (ctx.addRegion r).Proper := by
  unfold CheckContext.addRegion
  split
  · exact h
  · intro k hk
    rcases List.mem_append.mp hk with hk | hk
    · exact h k hk
    · obtain rfl := List.mem_singleton.mp hk
      rfl

theorem Proper.addRegions (h : ctx.Proper) (rs : List Region) : (ctx.addRegions rs).Proper := by
  unfold CheckContext.addRegions
  induction rs generalizing ctx with
  | nil => exact h
  | cons r rs ih => exact ih (h.addRegion r)

theorem addRegion_config (ctx : CheckContext) (r : Region) :
    (ctx.addRegion r).config = ctx.config := by
  unfold addRegion
  split <;> rfl

theorem addRegions_config (ctx : CheckContext) (rs : List Region) :
    (ctx.addRegions rs).config = ctx.config := by
  unfold addRegions
  induction rs generalizing ctx with
  | nil => rfl
  | cons r rs ih => rw [List.foldl_cons, ih, addRegion_config]

/-- The context of a document after some regions have been made known. -/
def after (d : Document) (config : Config) (rs : List Region) : CheckContext :=
  addRegions { document := d, config } rs

theorem proper_after (d : Document) (config : Config) (rs : List Region) :
    (after d config rs).Proper :=
  Proper.addRegions (by simp [Proper]) rs

theorem after_config (d : Document) (config : Config) (rs : List Region) :
    (after d config rs).config = config := addRegions_config _ rs

/-- The results of a region carry the error of its expression, known or not. -/
theorem Proper.resultsOf_error (h : ctx.Proper) {r : Region} {result : RegionResult}
    (hr : result ∈ ctx.resultsOf r) : result.error = r.fault ctx.config := by
  unfold resultsOf cached? at hr
  cases hk : ctx.known.find? fun k => k.1.same r with
  | none =>
    rw [hk] at hr
    exact Region.results_error hr
  | some k =>
    rw [hk] at hr
    have hmem := h k (List.mem_of_find?_eq_some hk)
    have hsame := List.find?_some hk
    rw [Option.map_some, Option.getD_some, hmem] at hr
    rw [Region.results_error hr, Region.fault_of_same hsame]

end CheckContext

/-! ## Errors of verdicts -/

/-- The verdict on a region has the error of its expression. -/
theorem Region.check_error {ctx : CheckContext} (h : ctx.Proper) (r : Region) :
    (r.check ctx).error = r.fault ctx.config := by
  unfold Region.check
  simp only
  split
  · rename_i kept hkept
    have hmem : kept ∈ ctx.resultsOf r := List.mem_of_find?_eq_some hkept
    rw [← h.resultsOf_error hmem]
    cases kept.error <;> rfl
  · split
    · rename_i first others hresults
      have hmem : first ∈ ctx.resultsOf r := by simp [hresults]
      rw [← h.resultsOf_error hmem]
      cases first.error <;> rfl
    · unfold fault
      cases r.compile ctx.config.expression.sizeLimit <;> rfl

theorem leaf_error {ctx : CheckContext} (h : ctx.Proper) (check : Check) :
    (check.leaf ctx).error = check.fault ctx.config := by
  cases check with
  | region r => exact r.check_error h
  | title pattern =>
    simp only [Check.leaf, Check.fault]
    cases compilePattern pattern ctx.config.expression.sizeLimit <;> rfl
  | _ => rfl

/-- The first error in a composite verdict is the first one in its parts. -/
theorem CheckResult.firstError_composite (passed : Bool) (children : List CheckResult) :
    (composite passed children).firstError = children.findSome? firstError := by
  rw [← firstErrorOf_eq]
  cases passed with
  | true => rfl
  | false =>
    unfold composite
    cases h : firstErrorOf children with
    | none => simp [firstError, h]
    | some error => rfl

/-- The first error in a negated verdict is the first one in the verdict. -/
theorem CheckResult.firstError_negated (child : CheckResult) :
    child.negated.firstError = child.firstError := by
  unfold negated
  cases h : child.firstError with
  | none => simp [firstError, firstErrorOf_eq, h]
  | some error => rfl

theorem findSome?_flatMap {α β γ : Type} {f : α → Option γ} {parts : α → List β}
    {g : β → Option γ} {xs : List α} (h : ∀ x ∈ xs, f x = (parts x).findSome? g) :
    xs.findSome? f = (xs.flatMap parts).findSome? g := by
  induction xs with
  | nil => rfl
  | cons x xs ih =>
    rw [List.findSome?_cons, List.flatMap_cons, List.findSome?_append, h x List.mem_cons_self,
      ih fun x hx => h x (List.mem_cons_of_mem _ hx)]
    cases (parts x).findSome? g <;> rfl

/-- The first error in the verdict of a condition is the first one among the conditions in it. -/
theorem evaluate_firstError (ctx : CheckContext) (check : Check) :
    (check.evaluate ctx).firstError = check.nodes.findSome? fun c => (c.leaf ctx).error := by
  induction check using Check.induction with
  | leaf check h =>
    rw [check.evaluate_leaf ctx h, (check.plain_leaf ctx).firstError, check.nodes_leaf h]
    simp
  | allOf checks ih | anyOf checks ih =>
    rw [Check.evaluate, CheckResult.firstError_composite, Check.evaluateAll_eq, List.findSome?_map,
      Check.nodes, Check.nodesOfAll_eq, List.findSome?_cons]
    exact findSome?_flatMap ih
  | unset => rfl
  | negation check ih =>
    rw [Check.evaluate, CheckResult.firstError_negated, ih, Check.nodes]
    rfl

/-- A verdict has an error just if it did not pass, and then it is the first one in it. -/
theorem evaluate_error (ctx : CheckContext) (check : Check) :
    (check.evaluate ctx).error =
      if (check.evaluate ctx).passed then none else (check.evaluate ctx).firstError := by
  induction check using Check.induction with
  | leaf check h =>
    rw [check.evaluate_leaf ctx h, (check.plain_leaf ctx).firstError]
    split
    · rename_i hpassed
      exact (check.plain_leaf ctx).error hpassed
    · rfl
  | allOf checks | anyOf checks =>
    rw [Check.evaluate, CheckResult.firstError_composite, ← CheckResult.firstErrorOf_eq]
    rfl
  | unset => rfl
  | negation check =>
    rw [Check.evaluate, CheckResult.firstError_negated]
    unfold CheckResult.negated
    cases (check.evaluate ctx).firstError <;> simp [CheckResult.error, CheckResult.passed]

/-- The first error in a verdict is that of the first broken condition. -/
theorem firstError_after (d : Document) (config : Config) (rs : List Region) (check : Check) :
    (check.evaluate (CheckContext.after d config rs)).firstError = check.firstFault config := by
  have hleaf : (fun c => (Check.leaf (CheckContext.after d config rs) c).error) =
      Check.fault config := by
    funext c
    rw [leaf_error (CheckContext.proper_after d config rs), CheckContext.after_config]
  rw [evaluate_firstError, hleaf]
  rfl

/-- The first error of the checks of a pattern is that of the first broken condition in them. -/
theorem firstCheckError_eq (v : Evaluator) (p : Pattern) (d : Document) :
    (v.evaluate p d).firstCheckError =
      (Check.nodesOfAll p.checks).findSome? (Check.fault v.config) := by
  let ctx := CheckContext.after d v.config (p.regions ++ p.checkRegions)
  have hchecks : (v.evaluate p d).checks = p.checks.map (Check.evaluate ctx) :=
    Check.evaluateAll_eq ctx p.checks
  have hfirst : p.checks.findSome? (CheckResult.firstError ∘ Check.evaluate ctx) =
      (p.checks.flatMap Check.nodes).findSome? (Check.fault v.config) :=
    findSome?_flatMap fun check _ => firstError_after d v.config _ check
  unfold Evaluation.firstCheckError
  rw [CheckResult.firstErrorOf_eq, hchecks, List.findSome?_map, hfirst, Check.nodesOfAll_eq]

/-- The checks of a pattern have no error just if no condition in them is broken. -/
theorem firstCheckError_eq_none (v : Evaluator) (p : Pattern) (d : Document) :
    (v.evaluate p d).firstCheckError = none ↔
      ∀ c ∈ Check.nodesOfAll p.checks, c.fault v.config = none := by
  rw [firstCheckError_eq, List.findSome?_eq_none_iff]

/-- No error is lost, invented or put out of order, at any condition in a condition and for any
pattern. -/
theorem evaluate_faults (v : Evaluator) (d : Document) (rs : List Region) (check : Check) :
    let ctx := CheckContext.after d v.config rs
    (check.evaluate ctx).nodes = check.nodes.map (Check.evaluate ctx) ∧
      (∀ c ∈ check.nodes, (c.evaluate ctx).error =
        if (c.evaluate ctx).passed then none else c.firstFault v.config) ∧
      (check.evaluate ctx).firstError = check.firstFault v.config ∧
      ∀ p : Pattern, (v.evaluate p d).firstCheckError = none ↔
        ∀ c ∈ Check.nodesOfAll p.checks, c.fault v.config = none := by
  intro ctx
  refine ⟨evaluate_nodes ctx check, fun c _ => ?_, firstError_after d v.config rs check,
    fun p => firstCheckError_eq_none v p d⟩
  rw [evaluate_error, firstError_after]

end Dossier
