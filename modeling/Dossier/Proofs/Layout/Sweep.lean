import Dossier.Layout.Lines

/-!
# The steps of the sweep

* `mem_events`, `pairwise_events` : the events are the two ends of each run, in order;
* `Sweep.start`, `Sweep.stop` : what an event does to the sweep;
* `Sweep.step_cases` : all that a step can do.
-/

namespace Dossier.Layout

/-! ## The order of events -/

namespace Event

theorem before_total (a b : Event) : (a.before b || b.before a) = true := by
  obtain ⟨h, edge, run⟩ := a
  obtain ⟨h', edge', run'⟩ := b
  cases edge <;> cases edge' <;> simp [before] <;> omega

theorem before_trans (a b c : Event) (hab : a.before b = true) (hbc : b.before c = true) :
    a.before c = true := by
  obtain ⟨h, edge, run⟩ := a
  obtain ⟨h', edge', run'⟩ := b
  obtain ⟨h'', edge'', run''⟩ := c
  cases edge <;> cases edge' <;> cases edge'' <;> simp [before] at hab hbc ⊢ <;> omega

theorem height_le_of_before {a b : Event} (h : a.before b = true) : a.height ≤ b.height := by
  simp only [before, Bool.or_eq_true, decide_eq_true_eq, Bool.and_eq_true, beq_iff_eq] at h
  omega

/-- A run that starts before another one ends does so at a lesser height. -/
theorem height_lt_of_before {a b : Event} (ha : a.edge = .start) (hb : b.edge = .stop)
    (h : a.before b = true) : a.height < b.height := by
  simp only [before, ha, hb, Bool.or_eq_true, decide_eq_true_eq, Bool.and_eq_true, beq_iff_eq] at h
  rcases h with h | ⟨-, h⟩
  · exact h
  · cases h

end Event

/-- The start of a run. -/
def startOf (run : Nat) (extent : Int × Int) : Event := ⟨extent.1, .start, run⟩

/-- The end of a run. -/
def stopOf (run : Nat) (extent : Int × Int) : Event := ⟨extent.2, .stop, run⟩

theorem mem_events {extents : List (Int × Int)} {e : Event} :
    e ∈ events extents ↔
      ∃ i x, extents[i]? = some x ∧ (e = startOf i x ∨ e = stopOf i x) := by
  simp only [events, List.mem_mergeSort, List.mem_flatMap, Prod.exists,
    List.mem_zipIdx_iff_getElem?, List.mem_cons, List.not_mem_nil, or_false, startOf, stopOf]
  constructor
  · rintro ⟨a, b, i, h, he⟩
    exact ⟨i, a, b, h, he⟩
  · rintro ⟨i, a, b, h, he⟩
    exact ⟨a, b, i, h, he⟩

theorem pairwise_events (extents : List (Int × Int)) :
    (events extents).Pairwise fun a b => a.before b = true :=
  List.pairwise_mergeSort Event.before_trans Event.before_total _

/-! ## Steps -/

namespace Sweep

/-- A run starts. -/
def start (s : Sweep) (run : Nat) : Sweep :=
  { s with states := s.states.set run .opened, depth := s.depth + 1, line := run :: s.line }

/-- A run ends that is open. -/
def stop (s : Sweep) (run : Nat) : Sweep :=
  { s with states := s.states.set run .closed, depth := s.depth - 1 }

/-- A run ends that has not started. -/
def skip (s : Sweep) (run : Nat) : Sweep :=
  { s with states := s.states.set run .closed, line := run :: s.line }

/-- All that a step can do: a run starts, a run ends that is open or has not started, or nothing
happens, since the run has ended or is open already. -/
theorem step_cases (s : Sweep) (e : Event) :
    (e.edge = .start ∧ s.states[e.run]? = some .pending ∧ s.step e = s.start e.run) ∨
    (e.edge = .stop ∧ s.states[e.run]? = some .opened ∧ s.step e = (s.stop e.run).endLine) ∨
    (e.edge = .stop ∧ s.states[e.run]? = some .pending ∧ s.step e = (s.skip e.run).endLine) ∨
    ((s.states[e.run]? = some .closed ∨ s.states[e.run]? = none ∨
      e.edge = .start ∧ s.states[e.run]? = some .opened) ∧ s.step e = s) := by
  unfold step
  cases hedge : e.edge <;> cases hstate : s.states[e.run]? with
  | none => simp
  | some state => cases state <;> simp [start, stop, skip]

end Sweep

end Dossier.Layout
