import Dossier.Proofs.Layout.Sweep
import Mathlib.Logic.Relation

/-!
# Lines and overlaps

If each run starts above its end, the lines are the groups of runs that overlap, in order from top
to bottom.

* `Overlap`, `Linked` : runs that overlap, and runs that are linked by runs that overlap;
* `Above` : the runs of one line end no later than those of another one start;
* `Gathered` : what holds after some events of the sweep, kept by each step (`Gathered.step`) and so
  by all of them (`Gathered.foldl`);
* `splitIntoLines_linked` : two runs are on one line just if they are linked, and the lines stand
  one above the other.
-/

namespace Dossier.Layout

/-- Two runs overlap: each one starts above the end of the other. -/
def Overlap (extents : List (Int × Int)) (i j : Nat) : Prop :=
  ∃ x y, extents[i]? = some x ∧ extents[j]? = some y ∧ x.1 < y.2 ∧ y.1 < x.2

/-- Two runs are linked by runs each of which overlaps the next one. -/
def Linked (extents : List (Int × Int)) : Nat → Nat → Prop :=
  Relation.ReflTransGen (Overlap extents)

/-- Each run of one line ends no later than each run of another line starts. -/
def Above (extents : List (Int × Int)) (upper lower : List Nat) : Prop :=
  ∀ i ∈ upper, ∀ j ∈ lower, ∀ x y, extents[i]? = some x → extents[j]? = some y → x.2 ≤ y.1

theorem Overlap.symm {extents : List (Int × Int)} {i j : Nat} (h : Overlap extents i j) :
    Overlap extents j i := by
  obtain ⟨x, y, hx, hy, h1, h2⟩ := h
  exact ⟨y, x, hy, hx, h2, h1⟩

theorem Linked.symm {extents : List (Int × Int)} {i j : Nat} (h : Linked extents i j) :
    Linked extents j i := by
  induction h with
  | refl => exact .refl
  | tail _ hstep ih => exact .head hstep.symm ih

/-- Runs stay linked with one more run that is linked to each of them. -/
theorem linked_cons {extents : List (Int × Int)} {line : List Nat} {i : Nat}
    (hline : ∀ j ∈ line, ∀ k ∈ line, Linked extents j k) (hi : ∀ k ∈ line, Linked extents i k) :
    ∀ j ∈ i :: line, ∀ k ∈ i :: line, Linked extents j k := by
  intro j hj k hk
  rcases List.mem_cons.mp hj with rfl | hj' <;> rcases List.mem_cons.mp hk with rfl | hk'
  · exact .refl
  · exact hi k hk'
  · exact (hi j hj').symm
  · exact hline j hj' k hk'

theorem Above.cons {extents : List (Int × Int)} {upper lower : List Nat} {i : Nat}
    {x : Int × Int} (h : Above extents upper lower) (hx : extents[i]? = some x)
    (hi : ∀ k ∈ upper, ∀ y, extents[k]? = some y → y.2 ≤ x.1) : Above extents upper (i :: lower) := by
  intro k hk j hj y z hy hz
  rcases List.mem_cons.mp hj with rfl | hj
  · obtain rfl : x = z := Option.some.inj (hx.symm.trans hz)
    exact hi k hk y hy
  · exact h k hk j hj y z hy hz

/-! ## What holds after some events -/

/-- What has happened to a run after some events. -/
def stateAfter (done : List Event) (run : Nat) (extent : Int × Int) : RunState :=
  if stopOf run extent ∈ done then .closed
  else if startOf run extent ∈ done then .opened
  else .pending

theorem stateAfter_eq_closed {done : List Event} {i : Nat} {x : Int × Int} :
    stateAfter done i x = .closed ↔ stopOf i x ∈ done := by
  unfold stateAfter
  grind

theorem stateAfter_eq_opened {done : List Event} {i : Nat} {x : Int × Int} :
    stateAfter done i x = .opened ↔ stopOf i x ∉ done ∧ startOf i x ∈ done := by
  unfold stateAfter
  grind

theorem stateAfter_eq_pending {done : List Event} {i : Nat} {x : Int × Int} :
    stateAfter done i x = .pending ↔ stopOf i x ∉ done ∧ startOf i x ∉ done := by
  unfold stateAfter
  grind

/-- An event says nothing about other runs. -/
theorem stateAfter_append_of_ne {done : List Event} {e : Event} {j : Nat} (y : Int × Int)
    (h : e.run ≠ j) : stateAfter (done ++ [e]) j y = stateAfter done j y := by
  have hstop : stopOf j y ≠ e := fun he => h (he ▸ rfl)
  have hstart : startOf j y ≠ e := fun he => h (he ▸ rfl)
  simp [stateAfter, hstop, hstart]

/-- What holds after some events of the sweep. -/
structure Gathered (extents : List (Int × Int)) (done : List Event) (s : Sweep) : Prop where
  length : s.states.length = extents.length
  states : ∀ i x, extents[i]? = some x → s.states[i]? = some (stateAfter done i x)
  depth : s.depth = s.states.count .opened
  /-- The runs that are open stand in the line that is being gathered. -/
  opened : ∀ i, s.states[i]? = some .opened → i ∈ s.line
  /-- The runs of complete lines have ended. -/
  ended : ∀ line ∈ s.lines, ∀ i ∈ line, ∀ x, extents[i]? = some x → stopOf i x ∈ done
  /-- The runs of the line have started. -/
  started : ∀ i ∈ s.line, ∀ x, extents[i]? = some x → startOf i x ∈ done
  /-- Each run that has started stands in a line. -/
  placed : ∀ i x, extents[i]? = some x → startOf i x ∈ done → ∃ line ∈ s.line :: s.lines, i ∈ line
  linked : ∀ line ∈ s.line :: s.lines, ∀ i ∈ line, ∀ j ∈ line, Linked extents i j
  apart : (s.line :: s.lines).Pairwise fun lower upper => Above extents upper lower

/-- While no run is open no line is being gathered. -/
def Idle (s : Sweep) : Prop := s.depth = 0 → s.line = []

theorem gathered_start (extents : List (Int × Int)) :
    Gathered extents [] { states := List.replicate extents.length .pending } where
  length := List.length_replicate
  states := by
    intro i x hx
    have := (List.getElem?_eq_some_iff.mp hx).1
    simp [stateAfter, this]
  depth := by simp [List.count_replicate]
  opened := by
    intro i h
    simp [List.getElem?_replicate] at h
  ended := by simp
  started := by simp
  placed := by simp
  linked := by simp
  apart := by simp

namespace Gathered

variable {extents : List (Int × Int)} {done : List Event} {s : Sweep}

/-- No run is open just if none of the states says so. -/
theorem not_opened (h : Gathered extents done s) (hdepth : s.depth = 0) (i : Nat) :
    s.states[i]? ≠ some .opened := by
  intro hi
  rw [h.depth, List.count_eq_zero] at hdepth
  exact hdepth (List.mem_of_getElem? hi)

/-- While no run is open the runs of the line have ended. -/
theorem line_ended (h : Gathered extents done s) (hdepth : s.depth = 0) {i : Nat} (hi : i ∈ s.line)
    {x : Int × Int} (hx : extents[i]? = some x) : stopOf i x ∈ done := by
  refine Decidable.byContradiction fun hstop => h.not_opened hdepth i ?_
  rw [h.states i x hx, stateAfter_eq_opened.mpr ⟨hstop, h.started i hi x hx⟩]

/-- Ending the line keeps what holds. -/
theorem endLine (h : Gathered extents done s) :
    Gathered extents done s.endLine ∧ Idle s.endLine := by
  unfold Sweep.endLine
  split
  · rename_i hdepth
    refine ⟨?_, fun _ => rfl⟩
    exact {
      length := h.length
      states := h.states
      depth := h.depth
      opened := fun i hi => absurd hi (h.not_opened hdepth i)
      ended := by
        intro line hline i hi
        rcases List.mem_cons.mp hline with rfl | hline
        · exact fun x hx => h.line_ended hdepth (List.mem_reverse.mp hi) hx
        · exact h.ended line hline i hi
      started := by simp
      placed := by
        intro i x hx hstart
        obtain ⟨line, hline, hi⟩ := h.placed i x hx hstart
        rcases List.mem_cons.mp hline with rfl | hline
        · exact ⟨_, .tail _ (.head _), List.mem_reverse.mpr hi⟩
        · exact ⟨line, .tail _ (.tail _ hline), hi⟩
      linked := by
        intro line hline i hi j hj
        simp only [List.mem_cons] at hline
        rcases hline with rfl | rfl | hline
        · cases hi
        · exact h.linked _ List.mem_cons_self i (List.mem_reverse.mp hi) j (List.mem_reverse.mp hj)
        · exact h.linked line (List.mem_cons_of_mem _ hline) i hi j hj
      apart := by
        obtain ⟨hfirst, hothers⟩ := List.pairwise_cons.mp h.apart
        refine List.pairwise_cons.mpr ⟨fun upper _ i _ j hj => absurd hj List.not_mem_nil, ?_⟩
        refine List.pairwise_cons.mpr ⟨fun upper hupper i hi j hj => ?_, hothers⟩
        exact hfirst upper hupper i hi j (List.mem_reverse.mp hj) }
  · rename_i hdepth
    exact ⟨h, fun hzero => absurd hzero hdepth⟩

end Gathered

/-! ## One more event -/

/-- The events of runs in order, as far as some events and then those that are left. Each run starts
above its end. -/
structure Ahead (extents : List (Int × Int)) (done todo : List Event) : Prop where
  proper : ∀ x ∈ extents, x.1 < x.2
  mem : ∀ e, e ∈ done ++ todo ↔ ∃ i x, extents[i]? = some x ∧ (e = startOf i x ∨ e = stopOf i x)
  sorted : (done ++ todo).Pairwise fun a b => a.before b = true

namespace Ahead

variable {extents : List (Int × Int)} {done todo : List Event} {e : Event} {i j : Nat}
  {x y : Int × Int}

/-- Events that are left come after those that have been. -/
theorem before (h : Ahead extents done todo) {a b : Event} (ha : a ∈ done) (hb : b ∈ todo) :
    a.before b = true :=
  (List.pairwise_append.mp h.sorted).2.2 a ha b hb

theorem next (h : Ahead extents done (e :: todo)) : Ahead extents (done ++ [e]) todo where
  proper := h.proper
  mem := by simpa using h.mem
  sorted := by simpa using h.sorted

theorem proper_of_getElem? (h : Ahead extents done todo) (hx : extents[i]? = some x) :
    x.1 < x.2 :=
  h.proper x (List.mem_of_getElem? hx)

theorem start_mem (h : Ahead extents done todo) (hx : extents[i]? = some x)
    (hdone : startOf i x ∉ done) : startOf i x ∈ todo :=
  (List.mem_append.mp ((h.mem _).mpr ⟨i, x, hx, .inl rfl⟩)).resolve_left hdone

theorem stop_mem (h : Ahead extents done todo) (hx : extents[i]? = some x)
    (hdone : stopOf i x ∉ done) : stopOf i x ∈ todo :=
  (List.mem_append.mp ((h.mem _).mpr ⟨i, x, hx, .inr rfl⟩)).resolve_left hdone

/-- A run that has ended does so no later than one starts that has not started. -/
theorem stop_le_start (h : Ahead extents done todo) (hy : extents[j]? = some y)
    (hi : stopOf i x ∈ done) (hj : startOf j y ∉ done) : x.2 ≤ y.1 :=
  Event.height_le_of_before (h.before hi (h.start_mem hy hj))

/-- A run that has started does so above the end of one that has not ended. -/
theorem start_lt_stop (h : Ahead extents done todo) (hy : extents[j]? = some y)
    (hi : startOf i x ∈ done) (hj : stopOf j y ∉ done) : x.1 < y.2 :=
  Event.height_lt_of_before rfl rfl (h.before hi (h.stop_mem hy hj))

/-- A run that has ended has started. -/
theorem start_of_stop (h : Ahead extents done todo) (hx : extents[i]? = some x)
    (hi : stopOf i x ∈ done) : startOf i x ∈ done := by
  refine Decidable.byContradiction fun hstart => ?_
  have := h.stop_le_start hx hi hstart
  have := h.proper_of_getElem? hx
  omega

end Ahead

namespace Gathered

variable {extents : List (Int × Int)} {done todo : List Event} {s : Sweep} {e : Event} {i : Nat}
  {x : Int × Int}

theorem getElem?_extents (h : Gathered extents done s) {state : RunState}
    (hi : s.states[i]? = some state) :
    ∃ x, extents[i]? = some x ∧ stateAfter done i x = state := by
  have hlt : i < extents.length := h.length ▸ (List.getElem?_eq_some_iff.mp hi).1
  have hx := List.getElem?_eq_getElem hlt
  refine ⟨_, hx, ?_⟩
  rw [h.states i _ hx] at hi
  exact Option.some.inj hi

/-- An event changes the state of its run alone. -/
theorem states_set (h : Gathered extents done s) (hx : extents[i]? = some x) (he : e.run = i)
    {state : RunState} (hstate : stateAfter (done ++ [e]) i x = state) :
    ∀ j y, extents[j]? = some y →
      (s.states.set i state)[j]? = some (stateAfter (done ++ [e]) j y) := by
  intro j y hy
  by_cases hji : i = j
  · subst hji
    obtain rfl : x = y := Option.some.inj (hx.symm.trans hy)
    have hlt : i < extents.length := (List.getElem?_eq_some_iff.mp hx).1
    rw [List.getElem?_set_self (h.length ▸ hlt), hstate]
  · rw [List.getElem?_set_ne hji, stateAfter_append_of_ne y (he ▸ hji), h.states j y hy]

/-- An event that has been changes nothing. -/
theorem again (h : Gathered extents done s) (he : e ∈ done) : Gathered extents (done ++ [e]) s := by
  have hmem : ∀ a, a ∈ done ++ [e] ↔ a ∈ done := by
    intro a
    rw [List.mem_append, List.mem_singleton]
    exact ⟨fun ha => ha.elim id fun ha => ha ▸ he, .inl⟩
  exact {
    length := h.length
    states := fun i x hx => by simpa only [stateAfter, hmem] using h.states i x hx
    depth := h.depth
    opened := h.opened
    ended := fun line hline i hi x hx => (hmem _).mpr (h.ended line hline i hi x hx)
    started := fun i hi x hx => (hmem _).mpr (h.started i hi x hx)
    placed := fun i x hx hstart => h.placed i x hx ((hmem _).mp hstart)
    linked := h.linked
    apart := h.apart }

/-- A run that starts overlaps each run that is open. -/
theorem overlap_of_opened (h : Gathered extents done s)
    (ha : Ahead extents done (startOf i x :: todo)) (hx : extents[i]? = some x) {j : Nat}
    (hj : s.states[j]? = some .opened) : Overlap extents i j := by
  obtain ⟨y, hy, hstate⟩ := h.getElem?_extents hj
  obtain ⟨hstop, hstart⟩ := stateAfter_eq_opened.mp hstate
  have hstop' : stopOf j y ∉ done ++ [startOf i x] := by
    rw [List.mem_append, List.mem_singleton]
    exact fun hmem => hmem.elim hstop fun he => by cases congrArg Event.edge he
  have hxy : x.1 < y.2 := ha.next.start_lt_stop hy (List.mem_append_right _ (.head _)) hstop'
  have hyx : y.1 ≤ x.1 := Event.height_le_of_before (ha.before hstart List.mem_cons_self)
  have := ha.proper_of_getElem? hx
  exact ⟨x, y, hx, hy, hxy, by omega⟩

/-- A run that starts is linked to each run of the line. -/
theorem linked_of_start (h : Gathered extents done s) (hidle : Idle s)
    (ha : Ahead extents done (startOf i x :: todo)) (hx : extents[i]? = some x) {k : Nat}
    (hk : k ∈ s.line) : Linked extents i k := by
  have hdepth : 0 < s.states.count .opened := by
    rw [← h.depth]
    refine Nat.pos_of_ne_zero fun hzero => ?_
    rw [hidle hzero] at hk
    cases hk
  obtain ⟨j, hj⟩ := List.getElem?_of_mem (List.count_pos_iff.mp hdepth)
  exact .head (h.overlap_of_opened ha hx hj)
    (h.linked s.line List.mem_cons_self j (h.opened j hj) k hk)

theorem start (h : Gathered extents done s) (hidle : Idle s)
    (ha : Ahead extents done (startOf i x :: todo)) (hx : extents[i]? = some x)
    (hi : s.states[i]? = some .pending) :
    Gathered extents (done ++ [startOf i x]) (s.start i) := by
  obtain ⟨hlt, hget⟩ := List.getElem?_eq_some_iff.mp hi
  have hpending : stopOf i x ∉ done ∧ startOf i x ∉ done := by
    rw [h.states i x hx] at hi
    exact stateAfter_eq_pending.mp (Option.some.inj hi)
  have hnew : startOf i x ∈ done ++ [startOf i x] := List.mem_append_right _ (.head _)
  exact {
    length := by simp [Sweep.start, h.length]
    states := by
      have hstop : stopOf i x ≠ startOf i x := fun he => by cases congrArg Event.edge he
      exact h.states_set hx rfl (stateAfter_eq_opened.mpr ⟨by simp [hpending.1, hstop], hnew⟩)
    depth := by
      simp [Sweep.start, List.count_set hlt, hget, h.depth]
    opened := by
      intro j hj
      by_cases hji : i = j
      · exact hji ▸ List.mem_cons_self
      · simp only [Sweep.start, List.getElem?_set, hji, if_false] at hj
        exact List.mem_cons_of_mem _ (h.opened j hj)
    ended := fun line hline j hj y hy => List.mem_append_left _ (h.ended line hline j hj y hy)
    started := by
      intro j hj y hy
      rcases List.mem_cons.mp hj with rfl | hj
      · obtain rfl : x = y := Option.some.inj (hx.symm.trans hy)
        exact hnew
      · exact List.mem_append_left _ (h.started j hj y hy)
    placed := by
      intro j y hy hstart
      rcases List.mem_append.mp hstart with hstart | hstart
      · obtain ⟨line, hline, hj⟩ := h.placed j y hy hstart
        rcases List.mem_cons.mp hline with rfl | hline
        · exact ⟨_, .head _, List.mem_cons_of_mem _ hj⟩
        · exact ⟨line, .tail _ hline, hj⟩
      · have hji : j = i := congrArg Event.run (List.mem_singleton.mp hstart)
        exact ⟨_, .head _, hji ▸ List.mem_cons_self⟩
    linked := by
      intro line hline j hj k hk
      rcases List.mem_cons.mp hline with rfl | hline
      · exact linked_cons (h.linked s.line List.mem_cons_self)
          (fun k hk => h.linked_of_start hidle ha hx hk) j hj k hk
      · exact h.linked line (List.mem_cons_of_mem _ hline) j hj k hk
    apart := by
      obtain ⟨hfirst, hothers⟩ := List.pairwise_cons.mp h.apart
      refine List.pairwise_cons.mpr ⟨fun upper hupper => ?_, hothers⟩
      refine (hfirst upper hupper).cons hx fun k hk y hy => ?_
      exact ha.stop_le_start hx (h.ended upper hupper k hk y hy) hpending.2 }

theorem stop (h : Gathered extents done s) (hx : extents[i]? = some x)
    (hi : s.states[i]? = some .opened) : Gathered extents (done ++ [stopOf i x]) (s.stop i) := by
  obtain ⟨hlt, hget⟩ := List.getElem?_eq_some_iff.mp hi
  have hstarts : ∀ j y, startOf j y ∈ done ++ [stopOf i x] → startOf j y ∈ done := by
    intro j y hj
    rcases List.mem_append.mp hj with hj | hj
    · exact hj
    · cases congrArg Event.edge (List.mem_singleton.mp hj)
  exact {
    length := by simp [Sweep.stop, h.length]
    states := h.states_set hx rfl (stateAfter_eq_closed.mpr (List.mem_append_right _ (.head _)))
    depth := by
      simp [Sweep.stop, List.count_set hlt, hget, h.depth]
    opened := by
      intro j hj
      by_cases hji : i = j
      · subst hji
        simp [Sweep.stop, hlt] at hj
      · simp only [Sweep.stop, List.getElem?_set, hji, if_false] at hj
        exact h.opened j hj
    ended := fun line hline j hj y hy => List.mem_append_left _ (h.ended line hline j hj y hy)
    started := fun j hj y hy => List.mem_append_left _ (h.started j hj y hy)
    placed := fun j y hy hj => h.placed j y hy (hstarts j y hj)
    linked := h.linked
    apart := h.apart }

/-- One more event keeps what holds. -/
theorem step (h : Gathered extents done s) (hidle : Idle s) (ha : Ahead extents done (e :: todo)) :
    Gathered extents (done ++ [e]) (s.step e) ∧ Idle (s.step e) := by
  obtain ⟨i, x, hx, he⟩ := (ha.mem e).mp (List.mem_append_right _ (.head _))
  have hrun : e.run = i := by rcases he with rfl | rfl <;> rfl
  have hstate := h.states i x hx
  rcases s.step_cases e with ⟨hedge, hi, hstep⟩ | ⟨hedge, hi, hstep⟩ | ⟨hedge, hi, -⟩ | ⟨hi, hstep⟩
  · -- The run starts.
    obtain rfl : e = startOf i x := he.resolve_right fun he => by
      rw [he] at hedge
      cases hedge
    rw [hstep]
    refine ⟨h.start hidle ha hx hi, fun hzero => by cases hzero⟩
  · -- The run ends that is open.
    obtain rfl : e = stopOf i x := he.resolve_left fun he => by
      rw [he] at hedge
      cases hedge
    rw [hstep]
    exact (h.stop hx hi).endLine
  · -- No run ends that has not started.
    obtain rfl : e = stopOf i x := he.resolve_left fun he => by
      rw [he] at hedge
      cases hedge
    have hpending := hstate.symm.trans hi
    obtain ⟨-, hstart⟩ := stateAfter_eq_pending.mp (Option.some.inj hpending)
    refine absurd (ha.next.start_of_stop hx (List.mem_append_right _ (.head _))) fun hmem => ?_
    rcases List.mem_append.mp hmem with hmem | hmem
    · exact hstart hmem
    · cases congrArg Event.edge (List.mem_singleton.mp hmem)
  · -- The event has been.
    rw [hstep]
    refine ⟨h.again ?_, hidle⟩
    rw [hrun, hstate] at hi
    rcases hi with hi | hi | ⟨hedge, hi⟩
    · have hstop := stateAfter_eq_closed.mp (Option.some.inj hi)
      rcases he with rfl | rfl
      · exact ha.start_of_stop hx hstop
      · exact hstop
    · cases hi
    · obtain rfl : e = startOf i x := he.resolve_right fun he => by
        rw [he] at hedge
        cases hedge
      exact (stateAfter_eq_opened.mp (Option.some.inj hi)).2

/-- All events that are left keep what holds. -/
theorem foldl (h : Gathered extents done s) (hidle : Idle s) (ha : Ahead extents done todo) :
    Gathered extents (done ++ todo) (todo.foldl Sweep.step s) ∧ Idle (todo.foldl Sweep.step s) := by
  induction todo generalizing done s with
  | nil => exact ⟨by simpa using h, hidle⟩
  | cons e todo ih =>
    obtain ⟨h', hidle'⟩ := h.step hidle ha
    have := ih h' hidle' ha.next
    rwa [List.append_assoc] at this

end Gathered

/-! ## The lines of the sweep -/

section Lines

variable {extents : List (Int × Int)}

/-- The lines that the sweep finds hold all runs, those of one line are linked, and the lines stand
one above the other. -/
structure Lined (extents : List (Int × Int)) (lines : List (List Nat)) : Prop where
  placed : ∀ i < extents.length, ∃ line ∈ lines, i ∈ line
  linked : ∀ line ∈ lines, ∀ i ∈ line, ∀ j ∈ line, Linked extents i j
  apart : lines.Pairwise (Above extents)

theorem lined_sweep (hproper : ∀ x ∈ extents, x.1 < x.2) : Lined extents (sweep extents) := by
  have ha : Ahead extents [] (events extents) :=
    ⟨hproper, fun _ => mem_events, pairwise_events extents⟩
  obtain ⟨h, hidle⟩ := (gathered_start extents).foldl (fun _ => rfl) ha
  unfold sweep
  generalize (events extents).foldl Sweep.step _ = s at h hidle
  have hdone : ∀ i x, extents[i]? = some x → startOf i x ∈ [] ++ events extents ∧
      stopOf i x ∈ [] ++ events extents := fun i x hx =>
    ⟨mem_events.mpr ⟨i, x, hx, .inl rfl⟩, mem_events.mpr ⟨i, x, hx, .inr rfl⟩⟩
  have hline : s.line = [] := by
    refine hidle ?_
    rw [h.depth, List.count_eq_zero]
    intro hmem
    obtain ⟨i, hi⟩ := List.getElem?_of_mem hmem
    obtain ⟨x, hx, hstate⟩ := h.getElem?_extents hi
    exact (stateAfter_eq_opened.mp hstate).1 (hdone i x hx).2
  simp only [hline, List.isEmpty_nil, if_true]
  exact {
    placed := by
      intro i hi
      have hx := List.getElem?_eq_getElem hi
      obtain ⟨line, hmem, hi⟩ := h.placed i _ hx (hdone i _ hx).1
      rcases List.mem_cons.mp hmem with rfl | hmem
      · rw [hline] at hi
        cases hi
      · exact ⟨line, List.mem_reverse.mpr hmem, hi⟩
    linked := fun line hmem =>
      h.linked line (List.mem_cons_of_mem _ (List.mem_reverse.mp hmem))
    apart := List.pairwise_reverse.mpr (List.pairwise_cons.mp h.apart).2 }

namespace Lined

variable {lines : List (List Nat)}

/-- The order of the runs in a line does not matter. -/
theorem map (h : Lined extents lines) {f : List Nat → List Nat}
    (hf : ∀ line i, i ∈ f line ↔ i ∈ line) : Lined extents (lines.map f) where
  placed := by
    intro i hi
    obtain ⟨line, hline, hmem⟩ := h.placed i hi
    exact ⟨f line, List.mem_map_of_mem hline, (hf line i).mpr hmem⟩
  linked := by
    intro line' hline' i hi j hj
    obtain ⟨line, hline, rfl⟩ := List.mem_map.mp hline'
    exact h.linked line hline i ((hf line i).mp hi) j ((hf line j).mp hj)
  apart := by
    refine List.pairwise_map.mpr (h.apart.imp fun habove i hi j hj => ?_)
    exact habove i ((hf _ i).mp hi) j ((hf _ j).mp hj)

/-- Runs that overlap stand on no two lines. -/
theorem eq_of_overlap (h : Lined extents lines) {line line' : List Nat} (hl : line ∈ lines)
    (hl' : line' ∈ lines) {i j : Nat} (hi : i ∈ line) (hj : j ∈ line')
    (ho : Overlap extents i j) : line = line' := by
  have hno : ∀ {upper lower : List Nat}, Above extents upper lower →
      ∀ i ∈ upper, ∀ j ∈ lower, ¬ Overlap extents i j := by
    rintro upper lower habove i hi j hj ⟨x, y, hx, hy, -, hlt⟩
    have := habove i hi j hj x y hx hy
    omega
  refine Decidable.byContradiction fun hne => ?_
  obtain ⟨m, hm, rfl⟩ := List.getElem_of_mem hl
  obtain ⟨n, hn, rfl⟩ := List.getElem_of_mem hl'
  have hapart := List.pairwise_iff_getElem.mp h.apart
  rcases Nat.lt_trichotomy m n with hlt | rfl | hlt
  · exact hno (hapart m n hm hn hlt) i hi j hj ho
  · exact hne rfl
  · exact hno (hapart n m hn hm hlt) j hj i hi ho.symm

/-- Two runs are on one line just if they are linked. -/
theorem linked_iff (h : Lined extents lines) {i : Nat} (hi : i < extents.length) (j : Nat) :
    (∃ line ∈ lines, i ∈ line ∧ j ∈ line) ↔ Linked extents i j := by
  constructor
  · rintro ⟨line, hline, hi, hj⟩
    exact h.linked line hline i hi j hj
  · intro hlinked
    induction hlinked with
    | refl =>
      obtain ⟨line, hline, hmem⟩ := h.placed i hi
      exact ⟨line, hline, hmem, hmem⟩
    | tail _ ho ih =>
      obtain ⟨line, hline, hmem, hk⟩ := ih
      obtain ⟨x, y, hx, hy, hxy⟩ := ho
      obtain ⟨line', hline', hj⟩ := h.placed _ (List.getElem?_eq_some_iff.mp hy).1
      obtain rfl := h.eq_of_overlap hline hline' hk hj ⟨x, y, hx, hy, hxy⟩
      exact ⟨line, hline, hmem, hj⟩

end Lined

end Lines

/-- The runs of a page are put into lines in this way if each run starts above its end. -/
theorem lined_splitIntoLines {runs : List TextRun} {inset : Float}
    (hproper : ∀ run ∈ runs, (TextRun.extent inset run).1 < (TextRun.extent inset run).2) :
    Lined (runs.map (TextRun.extent inset)) (splitIntoLines runs inset) := by
  refine (lined_sweep fun x hx => ?_).map fun line i => List.mem_mergeSort
  obtain ⟨run, hrun, rfl⟩ := List.mem_map.mp hx
  exact hproper run hrun

/-- If each run starts above its end, two runs are on one line just if they are linked by runs that
overlap, and the lines stand one above the other. -/
theorem splitIntoLines_linked (runs : List TextRun) (inset : Float)
    (hproper : ∀ run ∈ runs, (TextRun.extent inset run).1 < (TextRun.extent inset run).2) :
    (∀ i < runs.length, ∀ j < runs.length,
      (∃ line ∈ splitIntoLines runs inset, i ∈ line ∧ j ∈ line) ↔
        Linked (runs.map (TextRun.extent inset)) i j) ∧
      (splitIntoLines runs inset).Pairwise (Above (runs.map (TextRun.extent inset))) := by
  have h := lined_splitIntoLines hproper
  exact ⟨fun i hi j _ => h.linked_iff (by simpa using hi) j, h.apart⟩

/-- Two runs that overlap, one of which starts lower. -/
theorem splitIntoLines_linked_two :
    let runs : List TextRun := [⟨⟨0, 0, 1, 12⟩, "a"⟩, ⟨⟨2, 8, 3, 20⟩, "b"⟩]
    (∀ run ∈ runs, (TextRun.extent 0.25 run).1 < (TextRun.extent 0.25 run).2) ∧
      ((∃ line ∈ splitIntoLines runs 0.25, 0 ∈ line ∧ 1 ∈ line) ↔
        Linked (runs.map (TextRun.extent 0.25)) 0 1) := by
  have hproper : ∀ run ∈ [TextRun.mk ⟨0, 0, 1, 12⟩ "a", ⟨⟨2, 8, 3, 20⟩, "b"⟩],
      (TextRun.extent 0.25 run).1 < (TextRun.extent 0.25 run).2 := by decide
  exact ⟨hproper, (splitIntoLines_linked _ 0.25 hproper).1 0 (by decide) 1 (by decide)⟩

end Dossier.Layout
