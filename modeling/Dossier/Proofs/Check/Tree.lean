import Dossier.Check.Evaluate

/-!
# Trees of conditions

Conditions and verdicts are trees. The functions over several of them are maps over one of them,
and a property of conditions is proved for the kinds of conditions in turn.

* `Check.isLeaf` : the conditions that are not made of others;
* `Check.induction` : induction over a condition;
* `CheckResult.nodes` : the verdicts in a verdict, in the order of `Check.nodes`;
* `evaluate_nodes` : they are the verdicts of the conditions in the condition;
* `Check.evaluate_congr` : what the verdict of a condition depends on.
-/

namespace Dossier

/-- Whether a condition is not made of other ones. -/
def Check.isLeaf : Check → Bool
  | allOf _ | anyOf _ | negation _ => false
  | _ => true

/-- Induction over a condition. -/
@[elab_as_elim]
theorem Check.induction {motive : Check → Prop}
    (leaf : ∀ check, check.isLeaf = true → motive check)
    (allOf : ∀ checks, (∀ c ∈ checks, motive c) → motive (.allOf checks))
    (anyOf : ∀ checks, (∀ c ∈ checks, motive c) → motive (.anyOf checks))
    (unset : motive (.negation none))
    (negation : ∀ check, motive check → motive (.negation (some check))) :
    ∀ check, motive check
  | .allOf checks => allOf checks fun c _ => Check.induction leaf allOf anyOf unset negation c
  | .anyOf checks => anyOf checks fun c _ => Check.induction leaf allOf anyOf unset negation c
  | .negation none => unset
  | .negation (some check) =>
    negation check (Check.induction leaf allOf anyOf unset negation check)
  | .pageCount _ | .region _ | .title _ | .correspondent _ | .documentType _ | .storagePath _
  | .tags _ _ | .dateCreated _ _ _ => leaf _ rfl

/-! ## Several conditions -/

theorem Check.nodesOfAll_eq (checks : List Check) :
    Check.nodesOfAll checks = checks.flatMap Check.nodes := by
  induction checks with
  | nil => rfl
  | cons check checks ih => rw [nodesOfAll, List.flatMap_cons, ih]

theorem Check.evaluateAll_eq (ctx : CheckContext) (checks : List Check) :
    Check.evaluateAll ctx checks = checks.map (Check.evaluate ctx) := by
  induction checks with
  | nil => rfl
  | cons check checks ih => rw [evaluateAll, List.map_cons, ih]

theorem CheckResult.firstErrorOf_eq (results : List CheckResult) :
    firstErrorOf results = results.findSome? firstError := by
  induction results with
  | nil => rfl
  | cons r results ih =>
    rw [firstErrorOf, List.findSome?_cons, ih]
    cases r.firstError <;> rfl

/-! ## Conditions that are not made of others -/

namespace Check

variable {check : Check}

theorem nodes_leaf (h : check.isLeaf = true) : check.nodes = [check] := by
  cases check <;> first | rfl | simp [isLeaf] at h

theorem evaluate_leaf (ctx : CheckContext) (h : check.isLeaf = true) :
    check.evaluate ctx = check.leaf ctx := by
  cases check <;> first | rfl | simp [isLeaf] at h

end Check

/-- A verdict on a leaf: it has no parts, and it passed only if it has no error. -/
structure CheckResult.Plain (r : CheckResult) : Prop where
  children : r.children = []
  error : r.passed = true → r.error = none

namespace CheckResult

theorem plain_ofBool (passed : Bool) : (ofBool passed).Plain := ⟨rfl, fun _ => rfl⟩

theorem plain_failed (error : String) : (failed error).Plain := ⟨rfl, fun h => by cases h⟩

theorem Plain.firstError {r : CheckResult} (h : r.Plain) : r.firstError = r.error := by
  obtain ⟨passed, error, children⟩ := r
  obtain rfl : children = [] := h.children
  cases error <;> rfl

end CheckResult

theorem Region.plain_check (r : Region) (ctx : CheckContext) : (r.check ctx).Plain := by
  unfold Region.check
  simp only
  split
  · split
    · exact CheckResult.plain_failed _
    · exact CheckResult.plain_ofBool _
  · split
    · rename_i first _ _
      cases first.error with
      | none => exact CheckResult.plain_ofBool _
      | some error => exact CheckResult.plain_failed _
    · split
      · exact CheckResult.plain_ofBool _
      · exact CheckResult.plain_failed _

theorem Check.plain_leaf (check : Check) (ctx : CheckContext) : (check.leaf ctx).Plain := by
  cases check with
  | region r => exact r.plain_check ctx
  | title pattern =>
    simp only [leaf]
    split
    · exact CheckResult.plain_ofBool _
    · exact CheckResult.plain_failed _
  | _ => exact CheckResult.plain_ofBool _

/-! ## Verdicts in verdicts -/

namespace CheckResult

mutual

/-- The verdicts in a verdict, itself first, then those in its parts in order. -/
def nodes : CheckResult → List CheckResult
  | mk passed error children => mk passed error children :: nodesOfAll children

/-- The verdicts in several verdicts. -/
def nodesOfAll : List CheckResult → List CheckResult
  | [] => []
  | r :: rest => r.nodes ++ nodesOfAll rest

end

theorem nodes_eq (r : CheckResult) : r.nodes = r :: r.children.flatMap nodes := by
  have hall : ∀ results, nodesOfAll results = results.flatMap nodes := by
    intro results
    induction results with
    | nil => rfl
    | cons r results ih => rw [nodesOfAll, List.flatMap_cons, ih]
  obtain ⟨passed, error, children⟩ := r
  rw [nodes, hall]
  rfl

theorem children_negated (child : CheckResult) : child.negated.children = [child] := by
  unfold negated
  split <;> rfl

end CheckResult

/-- The verdicts in the verdict of a condition are those of the conditions in it. -/
theorem evaluate_nodes (ctx : CheckContext) (check : Check) :
    (check.evaluate ctx).nodes = check.nodes.map (Check.evaluate ctx) := by
  induction check using Check.induction with
  | leaf check h =>
    rw [check.nodes_leaf h, CheckResult.nodes_eq, Check.evaluate_leaf ctx h,
      (check.plain_leaf ctx).children]
    simp [Check.evaluate_leaf ctx h]
  | allOf checks ih | anyOf checks ih =>
    have hchildren : (checks.map (Check.evaluate ctx)).flatMap CheckResult.nodes =
        (checks.flatMap Check.nodes).map (Check.evaluate ctx) := by
      rw [List.flatMap_map, List.map_flatMap, List.flatMap_def, List.flatMap_def,
        List.map_congr_left ih]
    rw [CheckResult.nodes_eq, Check.nodes, List.map_cons, Check.nodesOfAll_eq, ← hchildren,
      Check.evaluate, Check.evaluateAll_eq]
    rfl
  | unset => rfl
  | negation check ih =>
    rw [CheckResult.nodes_eq, Check.nodes, List.map_cons, ← ih, Check.evaluate,
      CheckResult.children_negated]
    simp

/-- The verdict of a condition depends on those of the conditions without parts in it. -/
theorem Check.evaluate_congr {ctx ctx' : CheckContext} {check : Check}
    (h : ∀ c ∈ check.nodes, c.leaf ctx = c.leaf ctx') :
    check.evaluate ctx = check.evaluate ctx' := by
  induction check using Check.induction with
  | leaf check hleaf =>
    rw [check.evaluate_leaf ctx hleaf, check.evaluate_leaf ctx' hleaf]
    exact h check (by simp [check.nodes_leaf hleaf])
  | allOf checks ih | anyOf checks ih =>
    have hparts : checks.map (Check.evaluate ctx) = checks.map (Check.evaluate ctx') := by
      refine List.map_congr_left fun part hpart => ih part hpart fun c hc => h c ?_
      rw [Check.nodes, Check.nodesOfAll_eq]
      exact List.mem_cons_of_mem _ (List.mem_flatMap_of_mem hpart hc)
    rw [Check.evaluate, Check.evaluate, Check.evaluateAll_eq, Check.evaluateAll_eq, hparts]
  | unset => rfl
  | negation check ih =>
    rw [Check.evaluate, Check.evaluate, ih fun c hc => h c (List.mem_cons_of_mem _ hc)]

end Dossier
