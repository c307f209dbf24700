import Dossier.Proofs.Layout.Sweep
import Mathlib.Data.List.Flatten
import Mathlib.Data.List.Perm.Basic

/-!
# Each run on one line

Whatever the heights are between which the runs count, the sweep puts each run on just one line and
leaves no line empty.

* `Sweep.step_states` : a step settles the run of its event and changes no other run;
* `Placed` : the runs that have come up stand on one line each; it is kept by each step
  (`Placed.step`) and so by all of them (`Placed.foldl`);
* `sweep_perm`, `ne_nil_of_mem_sweep` : the lines hold each run once, and none is empty;
* `regionText_of_single` : the text of an area with one run in it.
-/

namespace Dossier.Layout

/-! ## What a step does to the states -/

namespace Sweep

theorem endLine_states (s : Sweep) : s.endLine.states = s.states := by
  unfold endLine
  split <;> rfl

/-- A step leaves the states as they are, since its run has come up before, or it sets the state of
its run. -/
theorem step_states (s : Sweep) (e : Event) :
    ((s.step e).states = s.states ∧ s.states[e.run]? ≠ some .pending) ∨
    ∃ state, state ≠ .pending ∧ (s.step e).states = s.states.set e.run state := by
  rcases s.step_cases e with ⟨-, -, hstep⟩ | ⟨-, -, hstep⟩ | ⟨-, -, hstep⟩ | ⟨hstate, hstep⟩ <;>
    rw [hstep]
  · exact .inr ⟨.opened, by decide, rfl⟩
  · exact .inr ⟨.closed, by decide, endLine_states _⟩
  · exact .inr ⟨.closed, by decide, endLine_states _⟩
  · refine .inl ⟨rfl, ?_⟩
    rcases hstate with hstate | hstate | ⟨-, hstate⟩ <;> simp [hstate]

theorem step_length (s : Sweep) (e : Event) : (s.step e).states.length = s.states.length := by
  rcases s.step_states e with ⟨h, -⟩ | ⟨state, -, h⟩ <;> simp [h]

/-- The run of the event has come up, and so have those that had before. -/
theorem step_settled (s : Sweep) (e : Event) {i : Nat}
    (h : s.states[i]? ≠ some .pending ∨ e.run = i) : (s.step e).states[i]? ≠ some .pending := by
  rcases s.step_states e with ⟨hstates, hrun⟩ | ⟨state, hne, hstates⟩ <;> rw [hstates]
  · rcases h with h | rfl
    · exact h
    · exact hrun
  · rw [List.getElem?_set]
    split
    · split
      · exact fun hstate => hne (Option.some.inj hstate)
      · simp
    · rename_i hi
      exact h.resolve_right hi

theorem foldl_length (todo : List Event) (s : Sweep) :
    (todo.foldl step s).states.length = s.states.length := by
  induction todo generalizing s with
  | nil => rfl
  | cons e todo ih => rw [List.foldl_cons, ih, step_length]

theorem foldl_settled {todo : List Event} {s : Sweep} {i : Nat}
    (h : s.states[i]? ≠ some .pending ∨ ∃ e ∈ todo, e.run = i) :
    (todo.foldl step s).states[i]? ≠ some .pending := by
  induction todo generalizing s with
  | nil => simpa using h
  | cons e todo ih =>
    refine ih ?_
    rcases h with h | ⟨e', he', hi⟩
    · exact .inl (s.step_settled e (.inl h))
    · rcases List.mem_cons.mp he' with rfl | he'
      · exact .inl (s.step_settled e' (.inr hi))
      · exact .inr ⟨e', he', hi⟩

end Sweep

/-! ## One line for each run -/

/-- A run that has come up. -/
def cameUp (state : Option RunState) : Bool := state.any (· != .pending)

/-- The runs that have come up stand on one line each, on one that is complete or on the one that
is being gathered. -/
structure Placed (s : Sweep) : Prop where
  depth : s.depth = s.states.count .opened
  /-- While a run is open there is a line. -/
  gathering : s.depth ≠ 0 → s.line ≠ []
  count : ∀ i, (s.line ++ s.lines.flatten).count i = if cameUp s.states[i]? then 1 else 0
  nonempty : ∀ line ∈ s.lines, line ≠ []

namespace Placed

variable {s : Sweep} {run : Nat}

theorem initial (n : Nat) : Placed { states := List.replicate n .pending } where
  depth := by simp [List.count_replicate]
  gathering := fun h => absurd rfl h
  count := by
    intro i
    simp only [List.getElem?_replicate]
    split <;> rfl
  nonempty := by simp

/-- Ending a line that is not empty. -/
theorem endLine (h : Placed s) (hline : s.line ≠ []) : Placed s.endLine := by
  unfold Sweep.endLine
  split
  · rename_i hdepth
    exact {
      depth := h.depth
      gathering := fun hne => absurd hdepth hne
      count := by
        intro i
        rw [← h.count i]
        simp
      nonempty := by
        intro line hmem
        rcases List.mem_cons.mp hmem with rfl | hmem
        · simpa using hline
        · exact h.nonempty line hmem }
  · exact h

/-- One more run comes up. -/
theorem count_set (h : Placed s) (hrun : s.states[run]? = some .pending) {state : RunState}
    (hstate : state ≠ .pending) (i : Nat) :
    (run :: s.line ++ s.lines.flatten).count i =
      if cameUp (s.states.set run state)[i]? then 1 else 0 := by
  obtain ⟨hlt, hget⟩ := List.getElem?_eq_some_iff.mp hrun
  rw [List.cons_append, List.count_cons, h.count, List.getElem?_set]
  by_cases hi : run = i
  · subst hi
    simp [cameUp, hget, hlt, hstate]
  · simp [hi]

theorem start (h : Placed s) (hrun : s.states[run]? = some .pending) : Placed (s.start run) where
  depth := by
    obtain ⟨hlt, hget⟩ := List.getElem?_eq_some_iff.mp hrun
    simp [Sweep.start, List.count_set hlt, hget, h.depth]
  gathering := fun _ => List.cons_ne_nil _ _
  count := h.count_set hrun (by decide)
  nonempty := h.nonempty

theorem skip (h : Placed s) (hrun : s.states[run]? = some .pending) : Placed (s.skip run) where
  depth := by
    obtain ⟨hlt, hget⟩ := List.getElem?_eq_some_iff.mp hrun
    simp [Sweep.skip, List.count_set hlt, hget, h.depth]
  gathering := fun _ => List.cons_ne_nil _ _
  count := h.count_set hrun (by decide)
  nonempty := h.nonempty

/-- A run that is open is counted. -/
theorem depth_pos (h : Placed s) (hrun : s.states[run]? = some .opened) : 0 < s.depth := by
  rw [h.depth]
  exact List.count_pos_iff.mpr (List.mem_of_getElem? hrun)

/-- The line is not empty while a run is open. -/
theorem line_ne_nil (h : Placed s) (hrun : s.states[run]? = some .opened) : s.line ≠ [] :=
  h.gathering (Nat.ne_of_gt (h.depth_pos hrun))

theorem stop (h : Placed s) (hrun : s.states[run]? = some .opened) : Placed (s.stop run) where
  depth := by
    obtain ⟨hlt, hget⟩ := List.getElem?_eq_some_iff.mp hrun
    simp [Sweep.stop, List.count_set hlt, hget, h.depth]
  gathering := fun _ => h.line_ne_nil hrun
  count := by
    intro i
    refine (h.count i).trans ?_
    simp only [Sweep.stop, List.getElem?_set]
    by_cases hi : run = i
    · subst hi
      obtain ⟨hlt, hget⟩ := List.getElem?_eq_some_iff.mp hrun
      simp [cameUp, hget, hlt]
    · simp [hi]
  nonempty := h.nonempty

/-- One more event. -/
theorem step (h : Placed s) (e : Event) : Placed (s.step e) := by
  rcases s.step_cases e with ⟨-, hrun, hstep⟩ | ⟨-, hrun, hstep⟩ | ⟨-, hrun, hstep⟩ | ⟨-, hstep⟩ <;>
    rw [hstep]
  · exact h.start hrun
  · exact (h.stop hrun).endLine (h.line_ne_nil hrun)
  · exact (h.skip hrun).endLine (List.cons_ne_nil _ _)
  · exact h

theorem foldl (h : Placed s) (todo : List Event) : Placed (todo.foldl Sweep.step s) := by
  induction todo generalizing s with
  | nil => exact h
  | cons e todo ih => exact ih (h.step e)

end Placed

/-! ## The lines of the sweep -/

/-- The lines of a sweep are those that are complete and the one that is being gathered. -/
theorem sweep_eq (extents : List (Int × Int)) :
    ∃ s : Sweep, Placed s ∧ (∀ i, cameUp s.states[i]? = decide (i < extents.length)) ∧
      sweep extents = (if s.line.isEmpty then s.lines else s.line.reverse :: s.lines).reverse := by
  let first : Sweep := { states := List.replicate extents.length .pending }
  refine ⟨(events extents).foldl Sweep.step first, (Placed.initial _).foldl _, fun i => ?_, rfl⟩
  have hlength := Sweep.foldl_length (events extents) first
  rw [List.length_replicate] at hlength
  by_cases hi : i < extents.length
  · have hx := List.getElem?_eq_getElem hi
    have hsettled : ((events extents).foldl Sweep.step first).states[i]? ≠ some .pending :=
      Sweep.foldl_settled (.inr ⟨_, mem_events.mpr ⟨i, _, hx, .inl rfl⟩, rfl⟩)
    have hget := List.getElem?_eq_getElem (hlength ▸ hi)
    rw [hget] at hsettled ⊢
    simpa [cameUp, hi] using hsettled
  · rw [List.getElem?_eq_none (by omega)]
    simp [cameUp, hi]

/-- The lines hold each run once. -/
theorem sweep_perm (extents : List (Int × Int)) :
    (sweep extents).flatten.Perm (List.range extents.length) := by
  obtain ⟨s, hplaced, hup, hsweep⟩ := sweep_eq extents
  have hflatten : (sweep extents).flatten.Perm (s.line ++ s.lines.flatten) := by
    rw [hsweep]
    refine (List.reverse_perm _).flatten.trans ?_
    split
    · rename_i hline
      rw [List.isEmpty_iff.mp hline, List.nil_append]
    · exact (List.reverse_perm s.line).append_right _
  refine hflatten.trans (List.perm_iff_count.mpr fun i => ?_)
  rw [hplaced.count, hup, List.count_range]
  simp

theorem ne_nil_of_mem_sweep {extents : List (Int × Int)} {line : List Nat}
    (h : line ∈ sweep extents) : line ≠ [] := by
  obtain ⟨s, hplaced, -, hsweep⟩ := sweep_eq extents
  rw [hsweep, List.mem_reverse] at h
  split at h
  · exact hplaced.nonempty line h
  · rename_i hline
    rcases List.mem_cons.mp h with rfl | h
    · simpa using hline
    · exact hplaced.nonempty line h

/-- A run by itself is a line by itself. -/
theorem sweep_of_single (extent : Int × Int) : sweep [extent] = [[0]] := by
  have hflatten : (sweep [extent]).flatten = [0] := List.perm_singleton.mp (sweep_perm [extent])
  have hne : ∀ line ∈ sweep [extent], line ≠ [] := fun _ => ne_nil_of_mem_sweep
  cases hlines : sweep [extent] with
  | nil => rw [hlines] at hflatten; cases hflatten
  | cons line lines =>
    rw [hlines] at hflatten hne
    rw [List.flatten_cons, List.append_eq_singleton_iff] at hflatten
    rcases hflatten with ⟨hnil, -⟩ | ⟨rfl, hnil⟩
    · exact absurd hnil (hne line List.mem_cons_self)
    · cases lines with
      | nil => rfl
      | cons line' lines =>
        exact absurd (List.append_eq_nil_iff.mp hnil).1 (hne line' (by simp))

end Dossier.Layout

namespace Dossier

open Layout

/-- The text of an area with one run in it is the text of the run. -/
theorem regionText_of_single {page : Page} {area : Rectangle} {run : TextRun}
    (hruns : page.runsIn area = [run]) (harea : area.normalized.isEmpty = false) (inset : Float) :
    page.regionText area inset = run.text := by
  have hlines : splitIntoLines [run] inset = [[0]] := by
    rw [splitIntoLines, List.map_singleton, sweep_of_single, List.map_singleton,
      List.mergeSort_singleton]
  have hline : lineText [run] [0] = run.text := by simp [lineText]
  rw [Page.regionText, harea, hruns]
  simp [hlines, hline]

end Dossier
