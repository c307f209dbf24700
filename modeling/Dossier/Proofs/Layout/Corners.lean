import Dossier.Layout.Lines
import Dossier.Proofs.Number.Order
import Mathlib.Data.List.Forall2

/-!
# The corners of areas

An area and a run may be given by any two opposite corners. Which ones does not matter for the text
in the area, except that a run stands in its line by the edge that comes first in it.

* `Rectangle.normalized_normalized` : edges that are in order stay as they are;
* `Page.regionText_of_same` : areas whose edges are equal as numbers have the same text;
* `TextRun.Redrawn` : a run, or the same run with its edges in order;
* `splitIntoLines_congr` : what the lines of runs depend on;
* `regionText_redrawn` : the text in an area after runs have been put in order;
* `regionText_redrawn_ne` : a run that is given from its right edge on may move in its line.
-/

namespace Dossier

theorem Rectangle.normalized_normalized (r : Rectangle) :
    r.normalized.normalized = r.normalized := by
  simp only [normalized, lesser_lesser_greater, greater_lesser_greater]

/-! ## Equal edges -/

/-- The edges of two areas are at the same places. -/
structure Rectangle.Alike (a b : Rectangle) : Prop where
  x : rank? a.x = rank? b.x
  y : rank? a.y = rank? b.y
  x2 : rank? a.x2 = rank? b.x2
  y2 : rank? a.y2 = rank? b.y2

namespace Rectangle

variable {a b : Rectangle}

theorem alike_of_same (h : a.same b = true) : a.Alike b := by
  simp only [same, Bool.and_eq_true] at h
  obtain ⟨⟨⟨hx, hy⟩, hx2⟩, hy2⟩ := h
  exact ⟨rank?_eq_of_beq hx, rank?_eq_of_beq hy, rank?_eq_of_beq hx2, rank?_eq_of_beq hy2⟩

theorem Alike.normalized (h : a.Alike b) : a.normalized.Alike b.normalized where
  x := rank?_lesser h.x h.x2
  y := rank?_lesser h.y h.y2
  x2 := rank?_greater h.x h.x2
  y2 := rank?_greater h.y h.y2

theorem Alike.isEmpty_eq (h : a.Alike b) : a.isEmpty = b.isEmpty := by
  simp only [isEmpty, lt_congr_rank h.x h.x2, lt_congr_rank h.y h.y2]

theorem Alike.contains_eq (h : a.Alike b) (other : Rectangle) :
    a.contains other = b.contains other := by
  simp only [contains, lt_congr_rank h.x (Eq.refl (rank? other.x)),
    lt_congr_rank h.y (Eq.refl (rank? other.y)), le_congr_rank (Eq.refl (rank? other.x2)) h.x2,
    le_congr_rank (Eq.refl (rank? other.y2)) h.y2]

end Rectangle

/-- Areas whose edges are equal as numbers have the same text. -/
theorem Page.regionText_of_same (page : Page) {a b : Rectangle} (h : a.same b = true)
    (inset : Float) : page.regionText a inset = page.regionText b inset := by
  have hedges := (Rectangle.alike_of_same h).normalized
  have hin : page.runsIn a = page.runsIn b := by
    unfold runsIn
    simp only [hedges.contains_eq]
  unfold regionText
  rw [hedges.isEmpty_eq, hin]

/-! ## Runs given by other corners -/

namespace TextRun

/-- The run with its edges in order. -/
def normalized (run : TextRun) : TextRun := { run with rect := run.rect.normalized }

/-- The same run, or the run with its edges in order. -/
def Redrawn (a b : TextRun) : Prop := b = a ∨ b = a.normalized

variable {a b : TextRun}

theorem Redrawn.rect_normalized (h : Redrawn a b) : b.rect.normalized = a.rect.normalized := by
  rcases h with rfl | rfl
  · rfl
  · exact a.rect.normalized_normalized

theorem Redrawn.text_eq (h : Redrawn a b) : b.text = a.text := by
  rcases h with rfl | rfl <;> rfl

/-- The edge that comes first stays if it is the left one. -/
theorem Redrawn.x_eq (h : Redrawn a b) (hx : a.rect.x2 < a.rect.x → b = a) :
    b.rect.x = a.rect.x := by
  rcases h with rfl | rfl
  · rfl
  · by_cases hlt : a.rect.x2 < a.rect.x
    · rw [hx hlt]
    · exact lesser_of_not_lt hlt

end TextRun

namespace Layout

variable {runs runs' : List TextRun}

/-- The order in a line depends on the left edges of the runs. -/
theorem leftOf_congr (hx : runs'.map (fun run => totalKey run.rect.x) =
    runs.map fun run => totalKey run.rect.x) : leftOf runs' = leftOf runs := by
  have hkey : ∀ i : Nat, (runs'[i]?.map fun run => totalKey run.rect.x) =
      runs[i]?.map fun run => totalKey run.rect.x := fun i => by
    rw [← List.getElem?_map, hx, List.getElem?_map]
  funext a b
  simp only [leftOf, hkey]

/-- The lines depend on the extents of the runs and on their left edges. -/
theorem splitIntoLines_congr {inset : Float}
    (hextent : runs'.map (TextRun.extent inset) = runs.map (TextRun.extent inset))
    (hx : runs'.map (fun run => totalKey run.rect.x) = runs.map fun run => totalKey run.rect.x) :
    splitIntoLines runs' inset = splitIntoLines runs inset := by
  unfold splitIntoLines
  rw [hextent, leftOf_congr hx]

theorem lineText_congr (htext : runs'.map TextRun.text = runs.map TextRun.text) :
    lineText runs' = lineText runs := by
  funext line
  unfold lineText
  simp only [← List.getElem?_map, htext]

theorem map_eq_map_of_forall₂ {α : Type} {f : TextRun → α} {R : TextRun → TextRun → Prop}
    (h : List.Forall₂ R runs runs') (hf : ∀ a b, R a b → f b = f a) :
    runs'.map f = runs.map f := by
  induction h with
  | nil => rfl
  | cons hab _ ih => rw [List.map_cons, List.map_cons, hf _ _ hab, ih]

end Layout

/-- The runs in an area, after some have been put in order. -/
theorem Page.runsIn_forall₂ {page page' : Page} {R : TextRun → TextRun → Prop} (rect : Rectangle)
    (h : List.Forall₂ R page.runs page'.runs)
    (hR : ∀ a b, R a b → b.rect.normalized = a.rect.normalized) :
    List.Forall₂ R (page.runsIn rect) (page'.runsIn rect) := by
  refine List.rel_filter (fun a b hab => ?_) h
  show rect.normalized.contains a.rect.normalized = true ↔
    rect.normalized.contains b.rect.normalized = true
  rw [hR a b hab]

open Layout

/-- The text in an area depends on the lines of the runs in it and on their texts. -/
theorem regionText_congr {page page' : Page} {rect : Rectangle} {inset : Float}
    (hlines : splitIntoLines (page'.runsIn rect) inset = splitIntoLines (page.runsIn rect) inset)
    (htext : (page'.runsIn rect).map TextRun.text = (page.runsIn rect).map TextRun.text) :
    page'.regionText rect inset = page.regionText rect inset := by
  unfold Page.regionText
  simp only [hlines, lineText_congr htext]

/-- The text in an area does not depend on the corners by which the area is given. It is put
together from the same lines whichever corners the runs are given by, and it is the same text if
the runs that are given from their right edge on are left as they are. -/
theorem regionText_redrawn (page : Page) (rect : Rectangle) (inset : Float) (runs : List TextRun)
    (h : List.Forall₂ TextRun.Redrawn page.runs runs) :
    page.regionText rect.normalized inset = page.regionText rect inset ∧
      List.Forall₂ List.Perm (splitIntoLines ({ page with runs }.runsIn rect) inset)
        (splitIntoLines (page.runsIn rect) inset) ∧
      (List.Forall₂ (fun a b => a.rect.x2 < a.rect.x → b = a) page.runs runs →
        { page with runs }.regionText rect inset = page.regionText rect inset) := by
  let page' : Page := { page with runs }
  have hredrawn : List.Forall₂ TextRun.Redrawn (page.runsIn rect) (page'.runsIn rect) :=
    page.runsIn_forall₂ rect h fun a b hab => hab.rect_normalized
  have hextent : (page'.runsIn rect).map (TextRun.extent inset) =
      (page.runsIn rect).map (TextRun.extent inset) := by
    refine map_eq_map_of_forall₂ hredrawn fun a b hab => ?_
    unfold TextRun.extent
    rw [hab.rect_normalized]
  refine ⟨?_, ?_, fun hx => ?_⟩
  · unfold Page.regionText Page.runsIn
    rw [rect.normalized_normalized]
  · unfold splitIntoLines
    rw [hextent]
    refine List.forall₂_map_left_iff.mpr (List.forall₂_map_right_iff.mpr ?_)
    refine List.forall₂_same.mpr fun line _ => ?_
    exact (List.mergeSort_perm line _).trans (List.mergeSort_perm line _).symm
  · have hboth : List.Forall₂ (fun a b => a.Redrawn b ∧ (a.rect.x2 < a.rect.x → b = a))
        page.runs page'.runs := by
      obtain ⟨hlength, hredrawn⟩ := List.forall₂_iff_zip.mp h
      exact List.forall₂_iff_zip.mpr
        ⟨hlength, fun hab => ⟨hredrawn hab, (List.forall₂_iff_zip.mp hx).2 hab⟩⟩
    have hin := page.runsIn_forall₂ rect hboth fun a b hab => hab.1.rect_normalized
    refine regionText_congr (splitIntoLines_congr hextent ?_) ?_
    · exact map_eq_map_of_forall₂ hin fun a b hab => congrArg totalKey (hab.1.x_eq hab.2)
    · exact map_eq_map_of_forall₂ hin fun a b hab => hab.1.text_eq

/-- Two runs, the first of which is given from its lower edge on, in an area that is given from its
lower right corner on. -/
theorem regionText_redrawn_upside_down :
    let page : Page := { runs := [⟨⟨100, 112, 205, 100⟩, "Invoice"⟩, ⟨⟨200, 100, 260, 112⟩, "42"⟩] }
    let page' : Page := { page with runs := page.runs.map TextRun.normalized }
    let area : Rectangle := ⟨600, 800, 0, 0⟩
    List.Forall₂ TextRun.Redrawn page.runs page'.runs ∧
      List.Forall₂ (fun a b => a.rect.x2 < a.rect.x → b = a) page.runs page'.runs ∧
      page.regionText area.normalized 0.25 = page.regionText area 0.25 ∧
      page'.regionText area 0.25 = page.regionText area 0.25 := by
  intro page page' area
  have hredrawn : List.Forall₂ TextRun.Redrawn page.runs page'.runs :=
    .cons (.inr rfl) (.cons (.inr rfl) .nil)
  have hleft : List.Forall₂ (fun a b => a.rect.x2 < a.rect.x → b = a) page.runs page'.runs :=
    .cons (fun h => absurd h (by decide)) (.cons (fun h => absurd h (by decide)) .nil)
  obtain ⟨h1, -, h3⟩ := regionText_redrawn page area 0.25 page'.runs hredrawn
  exact ⟨hredrawn, hleft, h1, h3 hleft⟩

/-- The text of an area with two runs on one line. -/
theorem regionText_of_two {page : Page} {area : Rectangle} {inset : Float} {a b : TextRun}
    (hruns : page.runs = [a, b]) (harea : area.normalized.isEmpty = false)
    (hin : ∀ run ∈ page.runs, area.normalized.contains run.rect.normalized = true)
    (hsweep : sweep (page.runs.map (TextRun.extent inset)) = [[0, 1]]) :
    page.regionText area inset =
      if leftOf page.runs 0 1 then " ".intercalate [a.text, b.text]
      else " ".intercalate [b.text, a.text] := by
  have hsort : [0, 1].mergeSort (leftOf page.runs) =
      if leftOf page.runs 0 1 then [0, 1] else [1, 0] := by
    cases h : leftOf page.runs 0 1 <;> simp [List.mergeSort, h]
  have hfilter : page.runsIn area = page.runs := List.filter_eq_self.mpr hin
  simp only [Page.regionText, hfilter, harea, Bool.false_eq_true, if_false, splitIntoLines, hsweep,
    List.map_cons, List.map_nil, hsort]
  cases leftOf page.runs 0 1 <;> rw [hruns] <;> rfl

/-- A run that is given from its right edge on stands in its line by that edge, here behind the next
run. With its edges in order it stands before it. -/
theorem regionText_redrawn_ne :
    let page : Page := { runs := [⟨⟨205, 100, 100, 112⟩, "Invoice"⟩, ⟨⟨200, 100, 260, 112⟩, "42"⟩] }
    let page' : Page := { page with runs := page.runs.map TextRun.normalized }
    let area : Rectangle := ⟨0, 0, 600, 800⟩
    List.Forall₂ TextRun.Redrawn page.runs page'.runs ∧
      page.regionText area 0.25 = "42 Invoice" ∧ page'.regionText area 0.25 = "Invoice 42" := by
  intro page page' area
  have harea : area.normalized.isEmpty = false := by decide +kernel
  have hextent : page.runs.map (TextRun.extent 0.25) =
      [(4636948397587169280, 4637581716284768256), (4636948397587169280, 4637581716284768256)] := by
    decide +kernel
  have hsweep : sweep (page.runs.map (TextRun.extent 0.25)) = [[0, 1]] := by
    rw [hextent]
    simp [sweep, events, List.mergeSort, Event.before, Sweep.step, Sweep.endLine]
  have hsweep' : sweep (page'.runs.map (TextRun.extent 0.25)) = [[0, 1]] := by
    rw [show page'.runs.map (TextRun.extent 0.25) = page.runs.map (TextRun.extent 0.25) by
      decide +kernel]
    exact hsweep
  have hleft : leftOf page.runs 0 1 = false := by decide +kernel
  have hleft' : leftOf page'.runs 0 1 = true := by decide +kernel
  refine ⟨.cons (.inr rfl) (.cons (.inr rfl) .nil), ?_, ?_⟩
  · rw [regionText_of_two rfl harea (by decide +kernel) hsweep, hleft]
    rfl
  · rw [regionText_of_two rfl harea (by decide +kernel) hsweep', hleft']
    rfl

end Dossier
