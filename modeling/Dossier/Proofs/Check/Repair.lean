import Dossier.Proofs.Check.Faults

/-!
# Verdicts and broken conditions

If some conditions have errors, what they would say is not known. A condition passes only if it
holds whatever they would say.

* `Check.reading` : the two-valued reading of a condition, given what the conditions with errors
  would say;
* `Check.agrees` : the induction over conditions;
* `evaluate_reading` : a condition that passes holds in every reading, and without errors the
  verdict is the reading.
-/

namespace Dossier

mutual

/-- What a condition says if those of its leaves that have errors say what they are told, by the
way that leads to them: the position in its condition of each condition on the way. -/
def Check.reading (ctx : CheckContext) (told : List Nat → Bool) : Check → Bool
  | .allOf checks => (Check.readings ctx told 0 checks).all id
  | .anyOf checks => (Check.readings ctx told 0 checks).any id
  | .negation none => false
  | .negation (some check) => !check.reading ctx fun way => told (0 :: way)
  | check => if (check.leaf ctx).error.isSome then told [] else (check.leaf ctx).passed

/-- What several conditions say, the first of which has the given position. -/
def Check.readings (ctx : CheckContext) (told : List Nat → Bool) (position : Nat) :
    List Check → List Bool
  | [] => []
  | check :: rest =>
    (check.reading ctx fun way => told (position :: way)) ::
      Check.readings ctx told (position + 1) rest

end

variable {ctx : CheckContext}

theorem Check.reading_leaf {check : Check} (h : check.isLeaf = true) (told : List Nat → Bool) :
    check.reading ctx told =
      if (check.leaf ctx).error.isSome then told [] else (check.leaf ctx).passed := by
  cases check <;> first | rfl | simp [isLeaf] at h

/-- A verdict without errors is what the condition says, and one that passed what it says in any
case. -/
def Check.Agrees (ctx : CheckContext) (check : Check) : Prop :=
  ∀ told, ((check.evaluate ctx).firstError = none →
      check.reading ctx told = (check.evaluate ctx).passed) ∧
    ((check.evaluate ctx).passed = true → check.reading ctx told = true)

/-- Conditions without errors say what their verdicts are. -/
theorem readings_eq {checks : List Check} (h : ∀ c ∈ checks, c.Agrees ctx)
    (told : List Nat → Bool) (position : Nat)
    (hnone : ∀ c ∈ checks, (c.evaluate ctx).firstError = none) :
    Check.readings ctx told position checks =
      checks.map fun c => (c.evaluate ctx).passed := by
  induction checks generalizing position with
  | nil => rfl
  | cons check checks ih =>
    have hfirst := (h check List.mem_cons_self fun way => told (position :: way)).1
      (hnone check List.mem_cons_self)
    rw [Check.readings, List.map_cons, hfirst]
    rw [ih (fun c hc => h c (List.mem_cons_of_mem _ hc)) (position + 1)
      fun c hc => hnone c (List.mem_cons_of_mem _ hc)]

/-- Conditions that pass hold. -/
theorem all_readings {checks : List Check} (h : ∀ c ∈ checks, c.Agrees ctx)
    (told : List Nat → Bool) (position : Nat)
    (hpassed : ∀ c ∈ checks, (c.evaluate ctx).passed = true) :
    (Check.readings ctx told position checks).all id = true := by
  induction checks generalizing position with
  | nil => rfl
  | cons check checks ih =>
    have hfirst := (h check List.mem_cons_self fun way => told (position :: way)).2
      (hpassed check List.mem_cons_self)
    have hothers := ih (fun c hc => h c (List.mem_cons_of_mem _ hc)) (position + 1)
      fun c hc => hpassed c (List.mem_cons_of_mem _ hc)
    simp [Check.readings, hfirst, hothers]

/-- One condition that passes is enough. -/
theorem any_readings {checks : List Check} (h : ∀ c ∈ checks, c.Agrees ctx)
    (told : List Nat → Bool) (position : Nat) {c : Check} (hc : c ∈ checks)
    (hpassed : (c.evaluate ctx).passed = true) :
    (Check.readings ctx told position checks).any id = true := by
  induction checks generalizing position with
  | nil => cases hc
  | cons check checks ih =>
    rcases List.mem_cons.mp hc with rfl | hc
    · have := (h c List.mem_cons_self fun way => told (position :: way)).2 hpassed
      simp [Check.readings, this]
    · have := ih (fun c hc => h c (List.mem_cons_of_mem _ hc)) (position + 1) hc
      simp [Check.readings, this]

theorem Check.agrees (ctx : CheckContext) (check : Check) : check.Agrees ctx := by
  induction check using Check.induction with
  | leaf check h =>
    intro told
    rw [check.reading_leaf h, check.evaluate_leaf ctx h, (check.plain_leaf ctx).firstError]
    refine ⟨fun hnone => by simp [hnone], fun hpassed => ?_⟩
    simp [(check.plain_leaf ctx).error hpassed, hpassed]
  | allOf checks ih =>
    intro told
    rw [evaluate, CheckResult.firstError_composite, evaluateAll_eq, reading, List.findSome?_map,
      List.findSome?_eq_none_iff]
    refine ⟨fun hnone => ?_, fun hpassed => all_readings ih told 0 ?_⟩
    · rw [readings_eq ih told 0 hnone]
      simp [CheckResult.composite, CheckResult.passed, List.all_map, Function.comp_def]
    · simpa [CheckResult.composite, CheckResult.passed] using hpassed
  | anyOf checks ih =>
    intro told
    rw [evaluate, CheckResult.firstError_composite, evaluateAll_eq, reading, List.findSome?_map,
      List.findSome?_eq_none_iff]
    refine ⟨fun hnone => ?_, fun hpassed => ?_⟩
    · rw [readings_eq ih told 0 hnone]
      simp [CheckResult.composite, CheckResult.passed, List.any_map, Function.comp_def]
    · obtain ⟨r, hr, hpassed⟩ := List.any_eq_true.mp hpassed
      obtain ⟨c, hc, rfl⟩ := List.mem_map.mp hr
      exact any_readings ih told 0 hc hpassed
  | unset =>
    intro told
    exact ⟨fun _ => rfl, fun h => by cases h⟩
  | negation check ih =>
    intro told
    rw [evaluate, CheckResult.firstError_negated, reading]
    -- A negation passes only without errors in the condition, where the verdict is the reading.
    have hnegated : (check.evaluate ctx).firstError = none →
        (check.evaluate ctx).negated.passed = !(check.evaluate ctx).passed := by
      intro hnone
      rw [CheckResult.negated, hnone]
      rfl
    refine ⟨fun hnone => ?_, fun hpassed => ?_⟩
    · rw [(ih _).1 hnone, hnegated hnone]
    · have hnone : (check.evaluate ctx).firstError = none := by
        cases hfirst : (check.evaluate ctx).firstError with
        | none => rfl
        | some error =>
          rw [CheckResult.negated, hfirst] at hpassed
          cases hpassed
      rw [(ih _).1 hnone, ← hnegated hnone, hpassed]

/-- A condition that passes holds whatever its leaves with errors would say, and without errors the
verdict is the reading of the condition. -/
theorem evaluate_reading (ctx : CheckContext) (check : Check) (told : List Nat → Bool) :
    ((check.evaluate ctx).passed = true → check.reading ctx told = true) ∧
      ((∀ c ∈ check.nodes, c.isLeaf = true → (c.evaluate ctx).error = none) →
        (check.evaluate ctx).passed = check.reading ctx told) := by
  obtain ⟨heq, hpassed⟩ := check.agrees ctx told
  refine ⟨hpassed, fun hnone => (heq ?_).symm⟩
  rw [evaluate_firstError, List.findSome?_eq_none_iff]
  intro c hc
  cases hleaf : c.isLeaf with
  | true => rw [← c.evaluate_leaf ctx hleaf, hnone c hc hleaf]
  | false => cases c <;> first | rfl | simp [Check.isLeaf] at hleaf

/-- A broken title next to a condition that holds. -/
theorem evaluate_reading_broken_title :
    let ctx : CheckContext := { document := { id := 1 }, config := {} }
    let check : Check := .anyOf [.title "(", .pageCount 0]
    ((Check.title "(").evaluate ctx).error.isSome = true ∧ (check.evaluate ctx).passed = true ∧
      ∀ told, check.reading ctx told = true :=
  ⟨rfl, rfl, fun told => (evaluate_reading _ _ told).1 rfl⟩

end Dossier
