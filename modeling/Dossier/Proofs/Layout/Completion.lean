import Dossier.Proofs.Layout.Reordering

/-!
# The end of the sweep

Whatever the heights are between which the runs count, the sweep ends each run, counts a run out only
while one is open, and leaves no line unfinished.

* `Sweep.after` : the sweep after some events;
* `Sweep.step_closed` : a run has ended after its end, and stays so; by `Sweep.foldl_closed` all runs
  have ended after all events;
* `Sweep.step_depth` : what a step takes off the number of open runs;
* `Idle.step` : while no run is open no line is being gathered;
* `sweep_eq_lines` : the lines are those that are complete after the last event;
* `Page.regionText_eq_lines` : the text in an area is that of the lines of the runs in it;
* `splitIntoLines_complete` : all of it.
-/

namespace Dossier.Layout

/-! ## Steps -/

theorem idle_endLine (s : Sweep) : Idle s.endLine := by
  unfold Sweep.endLine
  split
  · exact fun _ => rfl
  · rename_i hdepth
    exact fun hzero => absurd hzero hdepth

/-- One more event keeps lines from being gathered while no run is open. -/
theorem Idle.step {s : Sweep} (h : Idle s) (e : Event) : Idle (s.step e) := by
  rcases s.step_cases e with ⟨-, -, hstep⟩ | ⟨-, -, hstep⟩ | ⟨-, -, hstep⟩ | ⟨-, hstep⟩ <;>
    rw [hstep]
  · exact fun hzero => absurd hzero (Nat.succ_ne_zero _)
  · exact idle_endLine _
  · exact idle_endLine _
  · exact h

theorem Idle.foldl {s : Sweep} (h : Idle s) (todo : List Event) :
    Idle (todo.foldl Sweep.step s) := by
  induction todo generalizing s with
  | nil => exact h
  | cons e todo ih => exact ih (h.step e)

namespace Sweep

theorem endLine_depth (s : Sweep) : s.endLine.depth = s.depth := by
  unfold endLine
  split <;> rfl

/-- The end of a run that is open takes one off the number of open runs, which is not zero then. No
other event takes any off. -/
theorem step_depth {s : Sweep} (h : Placed s) (e : Event) :
    if e.edge = .stop ∧ s.states[e.run]? = some .opened then (s.step e).depth + 1 = s.depth
    else s.depth ≤ (s.step e).depth := by
  rcases s.step_cases e with ⟨hstart, -, hstep⟩ | ⟨hstop, hrun, hstep⟩ | ⟨-, hpending, hstep⟩ |
    ⟨hstate, hstep⟩ <;> rw [hstep]
  · rw [if_neg fun hend => by cases hstart.symm.trans hend.1]
    exact Nat.le_succ _
  · rw [if_pos ⟨hstop, hrun⟩, endLine_depth]
    exact Nat.sub_add_cancel (h.depth_pos hrun)
  · rw [endLine_depth, if_neg fun hend => by cases hpending.symm.trans hend.2]
    exact Nat.le_refl _
  · have hopen : ¬(e.edge = .stop ∧ s.states[e.run]? = some .opened) := by
      rintro ⟨hstop, hrun⟩
      rcases hstate with hstate | hstate | ⟨hstart, -⟩
      · cases hrun.symm.trans hstate
      · cases hrun.symm.trans hstate
      · cases hstop.symm.trans hstart
    rw [if_neg hopen]

/-- A run has ended after its end, whether it had started or not, and no event opens it again. -/
theorem step_closed {s : Sweep} {e : Event} {i : Nat} (hi : i < s.states.length)
    (h : s.states[i]? = some .closed ∨ e.edge = .stop ∧ e.run = i) :
    (s.step e).states[i]? = some .closed := by
  have hset (hne : e.run ≠ i → s.states[i]? = some .closed) :
      (s.states.set e.run .closed)[i]? = some .closed := by
    by_cases hrun : e.run = i
    · rw [hrun, List.getElem?_set_self hi]
    · rw [List.getElem?_set_ne hrun, hne hrun]
  have hkept (hne : e.run ≠ i) : s.states[i]? = some .closed := h.resolve_right fun h => hne h.2
  rcases s.step_cases e with ⟨hstart, hpending, hstep⟩ | ⟨-, -, hstep⟩ | ⟨-, -, hstep⟩ |
    ⟨hstate, hstep⟩ <;> rw [hstep]
  · have hclosed := h.resolve_right fun h => by cases hstart.symm.trans h.1
    have hne : e.run ≠ i := fun hrun => by
      rw [hrun, hclosed] at hpending
      cases hpending
    rw [start, List.getElem?_set_ne hne, hclosed]
  · rw [endLine_states]
    exact hset hkept
  · rw [endLine_states]
    exact hset hkept
  · rcases h with hclosed | ⟨hstop, rfl⟩
    · exact hclosed
    · rcases hstate with hclosed | hnone | ⟨hstart, -⟩
      · exact hclosed
      · exact absurd hi (Nat.not_lt.mpr (List.getElem?_eq_none_iff.mp hnone))
      · cases hstop.symm.trans hstart

theorem foldl_closed {todo : List Event} {s : Sweep} {i : Nat} (hi : i < s.states.length)
    (h : s.states[i]? = some .closed ∨ ∃ e ∈ todo, e.edge = .stop ∧ e.run = i) :
    (todo.foldl step s).states[i]? = some .closed := by
  induction todo generalizing s with
  | nil => simpa using h
  | cons e todo ih =>
    refine ih (by rwa [step_length]) ?_
    rcases h with h | ⟨e', he', hend⟩
    · exact .inl (step_closed hi (.inl h))
    · rcases List.mem_cons.mp he' with rfl | he'
      · exact .inl (step_closed hi (.inr hend))
      · exact .inr ⟨e', he', hend⟩

/-- The sweep of so many runs after some events. -/
def after (count : Nat) (done : List Event) : Sweep :=
  done.foldl step { states := List.replicate count .pending }

theorem placed_after (count : Nat) (done : List Event) : Placed (after count done) :=
  (Placed.initial count).foldl done

theorem after_snoc (count : Nat) (done : List Event) (e : Event) :
    after count (done ++ [e]) = (after count done).step e :=
  List.foldl_concat _ _ _ _

end Sweep

/-! ## After all events -/

section Events

variable (extents : List (Int × Int))

/-- All runs have ended after the last event. -/
theorem states_after_events :
    (Sweep.after extents.length (events extents)).states =
      List.replicate extents.length .closed := by
  refine List.ext_getElem? fun i => ?_
  by_cases hi : i < extents.length
  · rw [List.getElem?_replicate_of_lt hi]
    have hstop : stopOf i extents[i] ∈ events extents :=
      mem_events.mpr ⟨i, _, List.getElem?_eq_getElem hi, .inr rfl⟩
    exact Sweep.foldl_closed (by simpa using hi) (.inr ⟨_, hstop, rfl, rfl⟩)
  · have hlength : (Sweep.after extents.length (events extents)).states.length = extents.length :=
      (Sweep.foldl_length _ _).trans List.length_replicate
    rw [List.getElem?_eq_none (by omega), List.getElem?_eq_none (by simpa using hi)]

theorem depth_after_events : (Sweep.after extents.length (events extents)).depth = 0 := by
  rw [(Sweep.placed_after _ _).depth, states_after_events, List.count_replicate]
  rfl

theorem line_after_events : (Sweep.after extents.length (events extents)).line = [] := by
  have hidle : Idle (Sweep.after extents.length (events extents)) :=
    Idle.foldl (fun _ => rfl) (events extents)
  exact hidle (depth_after_events extents)

/-- No line is left over after the last event. -/
theorem sweep_eq_lines :
    sweep extents = (Sweep.after extents.length (events extents)).lines.reverse := by
  have hline := line_after_events extents
  unfold Sweep.after at hline ⊢
  simp only [sweep, hline, List.isEmpty_nil, if_true]

end Events

end Dossier.Layout

namespace Dossier

open Layout

/-! ## The text of the lines -/

/-- An area with a run in it is not empty. -/
theorem Rectangle.isEmpty_of_contains {area r : Rectangle}
    (h : area.contains r.normalized = true) : area.isEmpty = false := by
  simp only [contains, Bool.and_eq_true, decide_eq_true_eq] at h
  obtain ⟨⟨⟨hleft, hright⟩, htop⟩, hbottom⟩ := h
  have hx : area.x < area.x2 := lt_of_lt_lesser hleft hright
  have hy : area.y < area.y2 := lt_of_lt_lesser htop hbottom
  simp [isEmpty, hx, hy]

theorem Page.runsIn_of_isEmpty {page : Page} {rect : Rectangle}
    (h : rect.normalized.isEmpty = true) : page.runsIn rect = [] := by
  refine List.filter_eq_nil_iff.mpr fun run _ hrun => ?_
  rw [Rectangle.isEmpty_of_contains hrun] at h
  cases h

/-- The text in an area is that of the lines of the runs in it, also if the area is empty. -/
theorem Page.regionText_eq_lines (page : Page) (rect : Rectangle) (inset : Float) :
    page.regionText rect inset =
      "\n".intercalate ((linesOf (page.runsIn rect) inset).map fun line =>
        " ".intercalate (line.map TextRun.text)) := by
  rw [page.regionText_eq rect inset]
  split
  · rename_i hempty
    have hlines : linesOf [] inset = [] := List.eq_nil_iff_forall_not_mem.mpr fun line hline => by
      obtain ⟨numbers, hnumbers, -⟩ := List.mem_map.mp hline
      obtain ⟨i, hi⟩ := List.exists_mem_of_ne_nil _ (ne_nil_of_mem_splitIntoLines hnumbers)
      exact absurd (lt_of_mem_splitIntoLines hnumbers hi) (Nat.not_lt_zero i)
    rw [page.runsIn_of_isEmpty hempty, hlines]
    rfl
  · rfl

/-- Whatever runs there are and whatever the inset is, the lines hold each run just once, and none is
empty. The end of a run that is open takes one off the number of open runs, and no other event takes
any off; after the last event all runs have ended, none is open, and there is no line left over to
be added to the complete ones. So the text in an area is put together from the texts of the runs in
it, each taken once. -/
theorem splitIntoLines_complete (runs : List TextRun) (inset : Float) (page : Page)
    (rect : Rectangle) :
    let extents := runs.map (TextRun.extent inset)
    let final := Sweep.after runs.length (events extents)
    (splitIntoLines runs inset).flatten.Perm (List.range runs.length) ∧
      (∀ line ∈ splitIntoLines runs inset, line ≠ []) ∧
      (∀ done e, let before := Sweep.after runs.length done
        if e.edge = .stop ∧ before.states[e.run]? = some .opened then
          (Sweep.after runs.length (done ++ [e])).depth + 1 = before.depth
        else before.depth ≤ (Sweep.after runs.length (done ++ [e])).depth) ∧
      final.states = List.replicate runs.length .closed ∧ final.depth = 0 ∧ final.line = [] ∧
      sweep extents = final.lines.reverse ∧
      page.regionText rect inset =
        "\n".intercalate ((linesOf (page.runsIn rect) inset).map fun line =>
          " ".intercalate (line.map TextRun.text)) ∧
      (linesOf (page.runsIn rect) inset).flatten.Perm (page.runsIn rect) := by
  intro extents final
  have hfinal : final = Sweep.after extents.length (events extents) := by
    rw [List.length_map]
  refine ⟨splitIntoLines_perm runs inset, fun line => ne_nil_of_mem_splitIntoLines, ?_, ?_, ?_, ?_,
    ?_, page.regionText_eq_lines rect inset, linesOf_perm _ inset⟩
  · intro done e
    rw [Sweep.after_snoc]
    exact Sweep.step_depth (Sweep.placed_after _ _) e
  · rw [hfinal, states_after_events, List.length_map]
  · rw [hfinal, depth_after_events]
  · rw [hfinal, line_after_events]
  · rw [hfinal, sweep_eq_lines]

/-- A run without height, and one that starts below its end since the inset is twice its height. -/
theorem splitIntoLines_complete_late :
    let flat : TextRun := ⟨⟨0, 5, 1, 5⟩, "flat"⟩
    let late : TextRun := ⟨⟨2, 0, 3, 12⟩, "late"⟩
    let final := Sweep.after 2 (events ([flat, late].map (TextRun.extent 2)))
    (TextRun.extent 2 flat).1 = (TextRun.extent 2 flat).2 ∧
      (TextRun.extent 2 late).2 < (TextRun.extent 2 late).1 ∧
      (splitIntoLines [flat, late] 2).flatten.Perm [0, 1] ∧
      (∀ line ∈ splitIntoLines [flat, late] 2, line ≠ []) ∧
      final.states = [.closed, .closed] ∧ final.depth = 0 ∧ final.line = [] := by
  intro flat late final
  have hflat : (TextRun.extent 2 flat).1 = (TextRun.extent 2 flat).2 := by decide +kernel
  have hlate : (TextRun.extent 2 late).2 < (TextRun.extent 2 late).1 := by decide +kernel
  obtain ⟨hperm, hline, -, hstates, hdepth, hrest, -⟩ :=
    splitIntoLines_complete [flat, late] 2 {} ⟨0, 0, 10, 20⟩
  exact ⟨hflat, hlate, hperm, hline, hstates, hdepth, hrest⟩

end Dossier
