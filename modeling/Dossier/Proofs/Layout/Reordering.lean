import Dossier.Proofs.Layout.Grouping
import Dossier.Proofs.Layout.Placement
import Dossier.Proofs.Number.Order
import Mathlib.Data.List.Nodup
import Mathlib.Data.List.Pairwise

/-!
# The order of the runs on a page

The text in an area does not depend on the order in which the runs stand on the page, if each run
starts above its end and no two have the same left edge: the lines are then given by the runs alone.

* `linesOf` : the lines of runs as the runs that stand on them;
* `RunsLinked` : runs that are linked by runs that overlap;
* `Arranged` : what is known of the lines without regard to the numbers of the runs;
* `arranged_linesOf` : the lines are so arranged;
* `Arranged.unique` : there is only one such arrangement;
* `regionText_perm` : the text in an area of a page whose runs are put in another order.
-/

namespace Dossier

namespace Layout

variable {inset : Float} {runs runs' : List TextRun} {a b : TextRun}

/-! ## Runs instead of their numbers -/

/-- The run with a number. -/
def runAt (runs : List TextRun) (i : Nat) : TextRun := runs[i]?.getD default

/-- The lines of runs, as the runs that stand on them. -/
def linesOf (runs : List TextRun) (inset : Float) : List (List TextRun) :=
  (splitIntoLines runs inset).map fun line => line.map (runAt runs)

/-- Two runs of a list overlap: each one starts above the end of the other. -/
def RunsOverlap (inset : Float) (runs : List TextRun) (a b : TextRun) : Prop :=
  a ∈ runs ∧ b ∈ runs ∧ (TextRun.extent inset a).1 < (TextRun.extent inset b).2 ∧
    (TextRun.extent inset b).1 < (TextRun.extent inset a).2

/-- Two runs are linked by runs of a list each of which overlaps the next one. -/
def RunsLinked (inset : Float) (runs : List TextRun) : TextRun → TextRun → Prop :=
  Relation.ReflTransGen (RunsOverlap inset runs)

/-- The lines of runs without regard to their numbers. -/
structure Arranged (inset : Float) (runs : List TextRun) (lines : List (List TextRun)) : Prop where
  perm : lines.flatten.Perm runs
  nonempty : ∀ line ∈ lines, line ≠ []
  together : ∀ a ∈ runs, ∀ b ∈ runs,
    (∃ line ∈ lines, a ∈ line ∧ b ∈ line) ↔ RunsLinked inset runs a b
  above : lines.Pairwise fun upper lower =>
    ∀ a ∈ upper, ∀ b ∈ lower, (TextRun.extent inset a).2 ≤ (TextRun.extent inset b).1
  sorted : ∀ line ∈ lines, line.Pairwise fun a b => totalKey a.rect.x ≤ totalKey b.rect.x

/-! ## Numbers of runs -/

theorem getElem?_runAt {i : Nat} (h : i < runs.length) : runs[i]? = some (runAt runs i) := by
  rw [runAt, List.getElem?_eq_getElem h, Option.getD_some]

theorem map_runAt (runs : List TextRun) : (List.range runs.length).map (runAt runs) = runs := by
  refine List.ext_getElem (by simp) fun i h1 h2 => ?_
  simp [runAt, h2]

/-- A run stands on a line just if its number does. -/
theorem mem_map_runAt (hnodup : runs.Nodup) {line : List Nat} (hline : ∀ i ∈ line, i < runs.length)
    {i : Nat} (hi : runs[i]? = some a) : a ∈ line.map (runAt runs) ↔ i ∈ line := by
  rw [List.mem_map]
  constructor
  · rintro ⟨j, hj, hja⟩
    have hget : runs[j]? = runs[i]? := by rw [getElem?_runAt (hline j hj), hja, hi]
    rwa [← (List.getElem?_inj (hline j hj) hnodup).mp hget]
  · exact fun hmem => ⟨i, hmem, by rw [runAt, hi, Option.getD_some]⟩

theorem overlap_iff {i j : Nat} (hi : runs[i]? = some a) (hj : runs[j]? = some b) :
    Overlap (runs.map (TextRun.extent inset)) i j ↔ RunsOverlap inset runs a b := by
  simp only [Overlap, RunsOverlap, List.getElem?_map, hi, hj, Option.map_some, Option.some.injEq]
  constructor
  · rintro ⟨x, y, rfl, rfl, h1, h2⟩
    exact ⟨List.mem_of_getElem? hi, List.mem_of_getElem? hj, h1, h2⟩
  · rintro ⟨-, -, h1, h2⟩
    exact ⟨_, _, rfl, rfl, h1, h2⟩

theorem linked_iff_runsLinked (hnodup : runs.Nodup) {i j : Nat} (hi : runs[i]? = some a)
    (hj : runs[j]? = some b) :
    Linked (runs.map (TextRun.extent inset)) i j ↔ RunsLinked inset runs a b := by
  constructor
  · intro h
    induction h generalizing b with
    | refl =>
      obtain rfl := Option.some.inj (hi.symm.trans hj)
      exact .refl
    | @tail k _ _ ho ih =>
      obtain ⟨x, -, hx, -⟩ := id ho
      rw [List.getElem?_map] at hx
      obtain ⟨c, hk, -⟩ := Option.map_eq_some_iff.mp hx
      exact .tail (ih hk) ((overlap_iff hk hj).mp ho)
  · intro h
    induction h generalizing j with
    | refl =>
      obtain ⟨hlt, -⟩ := List.getElem?_eq_some_iff.mp hi
      obtain rfl := (List.getElem?_inj hlt hnodup).mp (hi.trans hj.symm)
      exact .refl
    | tail _ ho ih =>
      obtain ⟨k, hk⟩ := List.getElem?_of_mem ho.1
      exact .tail (ih hk) ((overlap_iff hk hj).mpr ho)

/-! ## The lines are arranged -/

theorem splitIntoLines_perm (runs : List TextRun) (inset : Float) :
    (splitIntoLines runs inset).flatten.Perm (List.range runs.length) := by
  have hsort : (splitIntoLines runs inset).flatten.Perm
      (sweep (runs.map (TextRun.extent inset))).flatten := by
    refine List.Perm.flatten_congr (List.forall₂_map_left_iff.mpr (List.forall₂_same.mpr ?_))
    exact fun line _ => List.mergeSort_perm line _
  simpa using hsort.trans (sweep_perm _)

theorem lt_of_mem_splitIntoLines {line : List Nat} (hline : line ∈ splitIntoLines runs inset)
    {i : Nat} (hi : i ∈ line) : i < runs.length :=
  List.mem_range.mp ((splitIntoLines_perm runs inset).mem_iff.mp (List.mem_flatten_of_mem hline hi))

theorem leftOf_total (runs : List TextRun) (i j : Nat) :
    (leftOf runs i j || leftOf runs j i) = true := by
  simp only [leftOf, Bool.or_eq_true, Bool.and_eq_true, decide_eq_true_eq, beq_iff_eq]
  omega

theorem leftOf_trans (runs : List TextRun) (i j k : Nat) (hij : leftOf runs i j = true)
    (hjk : leftOf runs j k = true) : leftOf runs i k = true := by
  simp only [leftOf, Bool.or_eq_true, Bool.and_eq_true, decide_eq_true_eq, beq_iff_eq] at *
  omega

theorem totalKey_le_of_leftOf {i j : Nat} (hi : i < runs.length) (hj : j < runs.length)
    (h : leftOf runs i j = true) :
    totalKey (runAt runs i).rect.x ≤ totalKey (runAt runs j).rect.x := by
  simp only [leftOf, getElem?_runAt hi, getElem?_runAt hj, Option.map_some, Option.getD_some,
    Bool.or_eq_true, Bool.and_eq_true, decide_eq_true_eq, beq_iff_eq] at h
  omega

/-- The lines hold each run once. -/
theorem linesOf_perm (runs : List TextRun) (inset : Float) :
    (linesOf runs inset).flatten.Perm runs := by
  unfold linesOf
  rw [← List.map_flatten]
  have := (splitIntoLines_perm runs inset).map (runAt runs)
  rwa [map_runAt] at this

theorem ne_nil_of_mem_splitIntoLines {line : List Nat} (h : line ∈ splitIntoLines runs inset) :
    line ≠ [] := by
  obtain ⟨found, hfound, rfl⟩ := List.mem_map.mp h
  simpa [← List.length_eq_zero_iff] using ne_nil_of_mem_sweep hfound

theorem arranged_linesOf (hnodup : runs.Nodup)
    (hproper : ∀ run ∈ runs, (TextRun.extent inset run).1 < (TextRun.extent inset run).2) :
    Arranged inset runs (linesOf runs inset) := by
  have hlined := lined_splitIntoLines hproper
  have hlt : ∀ line ∈ splitIntoLines runs inset, ∀ i ∈ line, i < runs.length :=
    fun line hline i hi => lt_of_mem_splitIntoLines hline hi
  exact {
    perm := linesOf_perm runs inset
    nonempty := by
      intro line' hline'
      obtain ⟨line, hline, rfl⟩ := List.mem_map.mp hline'
      simpa using ne_nil_of_mem_splitIntoLines hline
    together := by
      intro a ha b hb
      obtain ⟨i, hi⟩ := List.getElem?_of_mem ha
      obtain ⟨j, hj⟩ := List.getElem?_of_mem hb
      rw [← linked_iff_runsLinked hnodup hi hj,
        ← hlined.linked_iff (by simpa using (List.getElem?_eq_some_iff.mp hi).1)]
      constructor
      · rintro ⟨line', hline', ha, hb⟩
        obtain ⟨line, hline, rfl⟩ := List.mem_map.mp hline'
        exact ⟨line, hline, (mem_map_runAt hnodup (hlt line hline) hi).mp ha,
          (mem_map_runAt hnodup (hlt line hline) hj).mp hb⟩
      · rintro ⟨line, hline, hi', hj'⟩
        exact ⟨_, List.mem_map_of_mem hline, (mem_map_runAt hnodup (hlt line hline) hi).mpr hi',
          (mem_map_runAt hnodup (hlt line hline) hj).mpr hj'⟩
    above := by
      refine List.pairwise_map.mpr
        (hlined.apart.imp_of_mem fun hupper hlower habove a ha b hb => ?_)
      obtain ⟨i, hi, rfl⟩ := List.mem_map.mp ha
      obtain ⟨j, hj, rfl⟩ := List.mem_map.mp hb
      refine habove i hi j hj _ _ ?_ ?_
      · rw [List.getElem?_map, getElem?_runAt (hlt _ hupper i hi), Option.map_some]
      · rw [List.getElem?_map, getElem?_runAt (hlt _ hlower j hj), Option.map_some]
    sorted := by
      intro line' hline'
      obtain ⟨line, hline, rfl⟩ := List.mem_map.mp hline'
      have hsorted : line.Pairwise fun i j => leftOf runs i j = true := by
        obtain ⟨found, -, rfl⟩ := List.mem_map.mp hline
        exact List.pairwise_mergeSort (leftOf_trans runs) (leftOf_total runs) found
      refine List.pairwise_map.mpr (hsorted.imp_of_mem fun hi hj hleft => ?_)
      exact totalKey_le_of_leftOf (hlt line hline _ hi) (hlt line hline _ hj) hleft }

/-! ## There is only one arrangement -/

namespace Arranged

variable {lines lines' : List (List TextRun)}

theorem congr (h : Arranged inset runs lines) (hperm : runs.Perm runs') :
    Arranged inset runs' lines := by
  have hoverlap : RunsOverlap inset runs' = RunsOverlap inset runs := by
    funext a b
    simp only [RunsOverlap, hperm.mem_iff]
  exact {
    perm := h.perm.trans hperm
    nonempty := h.nonempty
    together := by
      intro a ha b hb
      rw [RunsLinked, hoverlap]
      exact h.together a (hperm.mem_iff.mpr ha) b (hperm.mem_iff.mpr hb)
    above := h.above
    sorted := h.sorted }

theorem mem_runs (h : Arranged inset runs lines) {line : List TextRun} (hline : line ∈ lines)
    (ha : a ∈ line) : a ∈ runs :=
  h.perm.mem_iff.mp (List.mem_flatten_of_mem hline ha)

/-- No run stands on two lines. -/
theorem eq_of_mem (h : Arranged inset runs lines) (hnodup : runs.Nodup) {line line' : List TextRun}
    (hline : line ∈ lines) (hline' : line' ∈ lines) (ha : a ∈ line) (ha' : a ∈ line') :
    line = line' := by
  have hdisjoint := (List.nodup_flatten.mp (h.perm.nodup_iff.mpr hnodup)).2
  have : Std.Symm (@List.Disjoint TextRun) := ⟨fun _ _ h _ hb ha => h ha hb⟩
  by_contra hne
  exact hdisjoint.forall hline hline' hne ha ha'

/-- A line holds the runs that are linked to any one of its runs. -/
theorem mem_iff (h : Arranged inset runs lines) (hnodup : runs.Nodup) {line : List TextRun}
    (hline : line ∈ lines) (ha : a ∈ line) : b ∈ line ↔ b ∈ runs ∧ RunsLinked inset runs a b := by
  constructor
  · intro hb
    have hruns := h.mem_runs hline hb
    exact ⟨hruns, (h.together a (h.mem_runs hline ha) b hruns).mp ⟨line, hline, ha, hb⟩⟩
  · rintro ⟨hruns, hlinked⟩
    obtain ⟨line', hline', ha', hb⟩ := (h.together a (h.mem_runs hline ha) b hruns).mpr hlinked
    rwa [h.eq_of_mem hnodup hline hline' ha ha']

theorem nodup_of_mem (h : Arranged inset runs lines) (hnodup : runs.Nodup) {line : List TextRun}
    (hline : line ∈ lines) : line.Nodup :=
  (List.nodup_flatten.mp (h.perm.nodup_iff.mpr hnodup)).1 line hline

theorem nodup (h : Arranged inset runs lines) (hnodup : runs.Nodup) : lines.Nodup := by
  have hdisjoint := (List.nodup_flatten.mp (h.perm.nodup_iff.mpr hnodup)).2
  refine hdisjoint.imp_of_mem fun {line line'} hline _ hd heq => ?_
  obtain ⟨a, ha⟩ := List.exists_mem_of_ne_nil line (h.nonempty line hline)
  exact hd ha (heq ▸ ha)

/-- Every line of one arrangement is a line of any other one. -/
theorem mem_of_mem (h : Arranged inset runs lines) (h' : Arranged inset runs lines')
    (hnodup : runs.Nodup)
    (hx : ∀ a ∈ runs, ∀ b ∈ runs, totalKey a.rect.x = totalKey b.rect.x → a = b)
    {line : List TextRun} (hline : line ∈ lines) : line ∈ lines' := by
  obtain ⟨a, ha⟩ := List.exists_mem_of_ne_nil line (h.nonempty line hline)
  have hruns := h.mem_runs hline ha
  obtain ⟨line', hline', ha', -⟩ := (h'.together a hruns a hruns).mpr .refl
  have hperm : line.Perm line' := by
    rw [List.perm_ext_iff_of_nodup (h.nodup_of_mem hnodup hline) (h'.nodup_of_mem hnodup hline')]
    intro b
    rw [h.mem_iff hnodup hline ha, h'.mem_iff hnodup hline' ha']
  have heq : line = line' := by
    refine hperm.eq_of_pairwise (fun b c hb hc hbc hcb => ?_) (h.sorted line hline)
      (h'.sorted line' hline')
    exact hx b (h.mem_runs hline hb) c (h'.mem_runs hline' hc) (Int.le_antisymm hbc hcb)
  rwa [heq]

/-- There is only one arrangement of runs that start above their ends and whose left edges
differ. -/
theorem unique (h : Arranged inset runs lines) (h' : Arranged inset runs lines')
    (hnodup : runs.Nodup)
    (hx : ∀ a ∈ runs, ∀ b ∈ runs, totalKey a.rect.x = totalKey b.rect.x → a = b)
    (hproper : ∀ run ∈ runs, (TextRun.extent inset run).1 < (TextRun.extent inset run).2) :
    lines = lines' := by
  have hperm : lines.Perm lines' := by
    rw [List.perm_ext_iff_of_nodup (h.nodup hnodup) (h'.nodup hnodup)]
    exact fun line => ⟨h.mem_of_mem h' hnodup hx, h'.mem_of_mem h hnodup hx⟩
  refine hperm.eq_of_pairwise (fun upper lower hu hl hul hlu => ?_) h.above h'.above
  -- Of two lines with runs, only one stands above the other.
  obtain ⟨a, ha⟩ := List.exists_mem_of_ne_nil upper (h.nonempty upper hu)
  obtain ⟨b, hb⟩ := List.exists_mem_of_ne_nil lower (h'.nonempty lower hl)
  have := hul a ha b hb
  have := hlu b hb a ha
  have := hproper a (h.mem_runs hu ha)
  have := hproper b (h'.mem_runs hl hb)
  omega

end Arranged

/-! ## The text in an area -/

theorem lineText_eq (runs : List TextRun) :
    lineText runs = (fun line => " ".intercalate (line.map TextRun.text)) ∘
      fun line => line.map (runAt runs) := by
  funext line
  unfold lineText
  simp only [Function.comp_apply, List.map_map]
  congr 1
  refine List.map_congr_left fun i _ => ?_
  show (runs[i]?.map TextRun.text).getD "" = (runs[i]?.getD default).text
  cases runs[i]? <;> rfl

end Layout

open Layout

theorem Page.regionText_eq (page : Page) (rect : Rectangle) (inset : Float) :
    page.regionText rect inset =
      if rect.normalized.isEmpty then ""
      else "\n".intercalate ((linesOf (page.runsIn rect) inset).map fun line =>
        " ".intercalate (line.map TextRun.text)) := by
  unfold Page.regionText linesOf
  simp only [List.map_map, lineText_eq]

/-- The text in an area does not depend on the order of the runs on the page, if each run in it
starts above its end and no two of them have the same left edge. -/
theorem regionText_perm (page : Page) (rect : Rectangle) (inset : Float) (runs : List TextRun)
    (hperm : page.runs.Perm runs)
    (hx : (page.runsIn rect).Pairwise fun a b => a.rect.x ≠ b.rect.x)
    (hproper : ∀ run ∈ page.runsIn rect,
      (TextRun.extent inset run).1 < (TextRun.extent inset run).2) :
    { page with runs }.regionText rect inset = page.regionText rect inset := by
  have hperm' : ({ page with runs }.runsIn rect).Perm (page.runsIn rect) := (hperm.filter _).symm
  have hnodup : (page.runsIn rect).Nodup := hx.imp fun hne heq => hne (by rw [heq])
  have hkey : ∀ a ∈ page.runsIn rect, ∀ b ∈ page.runsIn rect,
      totalKey a.rect.x = totalKey b.rect.x → a = b := by
    intro a ha b hb heq
    have : Std.Symm fun a b : TextRun => a.rect.x ≠ b.rect.x := ⟨fun _ _ h => h.symm⟩
    by_contra hne
    exact hx.forall ha hb hne (totalKey_inj.mp heq)
  have hlines : linesOf ({ page with runs }.runsIn rect) inset =
      linesOf (page.runsIn rect) inset := by
    have h := arranged_linesOf (hperm'.nodup_iff.mpr hnodup) fun run hrun =>
      hproper run (hperm'.mem_iff.mp hrun)
    exact (h.congr hperm').unique (arranged_linesOf hnodup hproper) hnodup hkey hproper
  rw [Page.regionText_eq, Page.regionText_eq, hlines]

/-- Three runs on two lines, the first of which comes last. -/
theorem regionText_perm_three :
    let a : TextRun := ⟨⟨100, 100, 180, 112⟩, "Invoice"⟩
    let b : TextRun := ⟨⟨200, 108, 260, 120⟩, "42"⟩
    let c : TextRun := ⟨⟨110, 130, 180, 142⟩, "Total"⟩
    let area : Rectangle := ⟨0, 0, 600, 800⟩
    let page : Page := { runs := [a, b, c] }
    [a, b, c].Perm [b, c, a] ∧
      (page.runsIn area).Pairwise (fun a b => a.rect.x ≠ b.rect.x) ∧
      (∀ run ∈ page.runsIn area,
        (TextRun.extent 0.25 run).1 < (TextRun.extent 0.25 run).2) ∧
      { page with runs := [b, c, a] }.regionText area 0.25 = page.regionText area 0.25 := by
  intro a b c area page
  have hperm : [a, b, c].Perm [b, c, a] := @List.perm_append_comm _ [a] [b, c]
  have hx : (page.runsIn area).Pairwise fun a b => a.rect.x ≠ b.rect.x := by decide +kernel
  have hproper : ∀ run ∈ page.runsIn area,
      (TextRun.extent 0.25 run).1 < (TextRun.extent 0.25 run).2 := by decide +kernel
  exact ⟨hperm, hx, hproper, regionText_perm page area 0.25 [b, c, a] hperm hx hproper⟩

end Dossier
