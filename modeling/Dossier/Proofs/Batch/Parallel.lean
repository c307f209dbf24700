import Dossier.Batch
import Dossier.Proofs.Entries
import Mathlib.Data.List.Perm.Basic

/-!
# Work done by several workers

What several workers find, put together in the order of the items, is what one finds who does the
work on one item after the other, whenever the tasks are started and finish.

* `Pool.step_results` : a step leaves what is found in the end;
* `Pool.left_step` and `Pool.moves_eq_nil_iff` : steps are left as long as there is work;
* `Pool.run_found` : what is found in the end of a run;
* `inParallel_eq` : what is put together;
* `Pool.exists_schedule` : schedules choose any moves in turn that are possible.
-/

namespace Dossier

variable {α β : Type} {workers : Nat} {work : α → β} {p : Pool α β} {m : Move}

namespace Pool

/-- What is found in the end, in no particular order. -/
def results (work : α → β) (p : Pool α β) : List (Nat × β) :=
  (p.waiting ++ p.running).map (fun task => (task.1, work task.2)) ++ p.found

/-- The number of steps that are left: each task is started and finishes. -/
def left (p : Pool α β) : Nat := 2 * p.waiting.length + p.running.length

theorem mem_moves : m ∈ p.moves workers ↔
    (m = .start ∧ p.waiting ≠ [] ∧ p.running.length < workers) ∨
      ∃ index, m = .finish index ∧ index < p.running.length := by
  unfold moves
  rw [List.mem_append]
  refine or_congr ?_ ?_
  · split <;> simp_all
  · simp [eq_comm, and_comm]

/-- Whatever happens, the same is found in the end. -/
theorem step_results (m : Move) : ((p.step work m).results work).Perm (p.results work) := by
  cases m with
  | start =>
    unfold step results
    cases hwaiting : p.waiting with
    | nil => simp [hwaiting]
    | cons task rest =>
      refine .append_right _ (.map _ ?_)
      show (rest ++ (p.running ++ [task])).Perm (task :: (rest ++ p.running))
      rw [← List.append_assoc]
      exact List.perm_append_singleton task _
  | finish index =>
    cases htask : p.running[index]? with
    | none =>
      simp only [step, htask]
      exact .refl _
    | some task =>
      obtain ⟨hindex, rfl⟩ := List.getElem?_eq_some_iff.mp htask
      have hrunning := List.getElem_cons_eraseIdx_perm hindex
      simp only [step, htask, results, List.map_append, List.append_assoc]
      refine .append_left _ ?_
      refine .trans ?_ (.append_right _ (hrunning.map _))
      rw [← List.append_assoc, List.map_cons]
      exact List.perm_append_singleton _ _

/-- A step is a part of the work that is left. -/
theorem left_step (work : α → β) (h : m ∈ p.moves workers) : (p.step work m).left + 1 = p.left := by
  rcases mem_moves.mp h with ⟨rfl, hwaiting, -⟩ | ⟨index, rfl, hindex⟩
  · obtain ⟨task, rest, hcons⟩ := List.exists_cons_of_ne_nil hwaiting
    simp only [step, left, hcons, List.length_append, List.length_cons, List.length_nil]
    omega
  · have herased := List.length_eraseIdx_of_lt hindex
    simp only [step, left, List.getElem?_eq_getElem hindex, herased]
    omega

/-- As long as there is work left, something can happen. -/
theorem moves_eq_nil_iff (hworkers : 0 < workers) : p.moves workers = [] ↔ p.left = 0 := by
  constructor
  · intro hnil
    have hnone (m : Move) : m ∉ p.moves workers := hnil ▸ List.not_mem_nil
    have hidle : p.running.length = 0 := by
      by_contra hpos
      exact hnone _ (mem_moves.mpr (.inr ⟨0, rfl, Nat.pos_of_ne_zero hpos⟩))
    have hstarted : p.waiting = [] := by
      by_contra hne
      exact hnone _ (mem_moves.mpr (.inl ⟨rfl, hne, hidle ▸ hworkers⟩))
    rw [left, hstarted, hidle]
    rfl
  · intro hleft
    refine List.eq_nil_iff_forall_not_mem.mpr fun m hm => ?_
    unfold left at hleft
    rcases mem_moves.mp hm with ⟨-, hne, -⟩ | ⟨index, -, hindex⟩
    · exact hne (List.length_eq_zero_iff.mp (by omega))
    · omega

/-- When no steps are left, everything is found. -/
theorem found_of_left (h : p.left = 0) : p.found = p.results work := by
  unfold left at h
  have hwaiting : p.waiting = [] := List.length_eq_zero_iff.mp (by omega)
  have hrunning : p.running = [] := List.length_eq_zero_iff.mp (by omega)
  rw [results, hwaiting, hrunning]
  rfl

/-- Whatever a schedule chooses, in the end the same is found. -/
theorem run_found (hworkers : 0 < workers) (work : α → β) (schedule : Nat → Nat) {steps : Nat}
    (h : p.left = steps) :
    (run workers work schedule steps p).found.Perm (p.results work) := by
  induction steps generalizing p with
  | zero =>
    rw [run, found_of_left h]
  | succ steps ih =>
    have hmoves : p.moves workers ≠ [] := by
      rw [Ne, moves_eq_nil_iff hworkers, h]
      exact Nat.succ_ne_zero _
    have hindex := Nat.mod_lt (schedule steps) (List.length_pos_iff.mpr hmoves)
    rw [run]
    simp only [List.getElem?_eq_getElem hindex]
    have hleft := left_step work (List.getElem_mem hindex)
    exact (ih (by omega)).trans (step_results _)

theorem left_ofItems (items : List α) :
    (ofItems items : Pool α β).left = 2 * items.length := by
  simp [left, ofItems]

theorem results_ofItems (work : α → β) (items : List α) :
    (ofItems items).results work = items.mapIdx fun place a => (place, work a) := by
  rw [results, ofItems, List.append_nil, List.append_nil]
  exact List.ext_getElem (by simp) (by simp)

/-- The results for items have their places in order. -/
theorem increasing_results_ofItems (work : α → β) (items : List α) :
    Increasing ((ofItems items).results work) := by
  rw [results_ofItems, Increasing, List.pairwise_iff_getElem]
  intro i j hi hj hlt
  simpa using hlt

/-! ## Schedules -/

/-- Moves that can be made in turn. -/
def Possible (workers : Nat) (work : α → β) : Pool α β → List Move → Prop
  | _, [] => True
  | p, m :: ms => m ∈ p.moves workers ∧ Possible workers work (p.step work m) ms

/-- Only what a schedule says about the steps that are left counts. -/
theorem run_congr {schedule schedule' : Nat → Nat} {steps : Nat}
    (h : ∀ n < steps, schedule n = schedule' n) :
    run workers work schedule steps p = run workers work schedule' steps p := by
  induction steps generalizing p with
  | zero => rfl
  | succ steps ih =>
    rw [run, run, h steps (Nat.lt_succ_self _)]
    split
    · rfl
    · exact ih fun n hn => h n (Nat.lt_succ_of_lt hn)

/-- Any moves that can be made in turn are made under some schedule. -/
theorem exists_schedule {ms : List Move} (h : Possible workers work p ms) :
    ∃ schedule, run workers work schedule ms.length p = ms.foldl (step work) p := by
  induction ms generalizing p with
  | nil => exact ⟨fun _ => 0, rfl⟩
  | cons m ms ih =>
    obtain ⟨hm, hms⟩ := h
    obtain ⟨schedule, hrest⟩ := ih hms
    obtain ⟨index, hindex, hget⟩ := List.getElem_of_mem hm
    refine ⟨fun n => if n = ms.length then index else schedule n, ?_⟩
    rw [List.length_cons, run, if_pos rfl, Nat.mod_eq_of_lt hindex]
    simp only [List.getElem?_eq_getElem hindex, hget]
    rw [List.foldl_cons, ← hrest]
    exact run_congr fun n hn => if_neg (Nat.ne_of_lt hn)

end Pool

/-- Several workers find the same as one who works on one item after the other. -/
theorem inParallel_eq (hworkers : 0 < workers) (schedule : Nat → Nat) (work : α → β)
    (items : List α) : inParallel workers schedule work items = items.map work := by
  have hfound := Pool.run_found hworkers work schedule (Pool.left_ofItems items)
  rw [inParallel, gathered, (Pool.increasing_results_ofItems work items).entriesOf_perm hfound,
    Pool.results_ofItems]
  exact List.ext_getElem (by simp) (by simp)

end Dossier
