import Dossier.Proofs.Region.Results

/-!
# Marks of kept results

Which result a selector picks depends on no mark, and marking one result clears all other marks. Of
several selectors that are applied one after the other only the last one counts.

* `RegionResult.unmarked` : a result without regard to its mark;
* `resolve_retain`, `retain_retain` : marks that were made before make no difference;
* `run_mapM_keep` : what several selectors give, and what they leave;
* `keep_last` : the last selector decides which result is kept, and no result changes otherwise.
-/

namespace Dossier

/-- A result without regard to its mark. -/
def RegionResult.unmarked (r : RegionResult) : RegionResult := { r with isRetained := false }

variable {results : List RegionResult} {selector choice : PageSelector}

/-- Marks make no difference to which result is found. -/
theorem resolve_retain : resolve (retain results selector) choice = resolve results choice := by
  refine Option.ext fun i => ?_
  rw [resolve_eq_some, resolve_eq_some, picks_retain]

/-- Marks that were made before are cleared. -/
theorem retain_retain : retain (retain results selector) choice = retain results choice := by
  refine List.ext_getElem? fun i => ?_
  simp only [getElem?_retain, resolve_retain, Option.map_map, Function.comp_def]

/-- Nothing but the marks changes. -/
theorem map_unmarked_retain :
    (retain results selector).map RegionResult.unmarked = results.map RegionResult.unmarked := by
  refine List.ext_getElem? fun i => ?_
  rw [List.getElem?_map, List.getElem?_map, getElem?_retain, Option.map_map]
  rfl

/-- The result that was picked is marked, and no other one. -/
theorem holdsAt_retain_iff {i : Nat} :
    HoldsAt (retain results selector) RegionResult.isRetained i ↔
      resolve results selector = some i := by
  rw [holdsAt_retain, picks_retain, resolve_eq_some]

/-! ## Several selectors -/

theorem run_keep (results : List RegionResult) (selector : PageSelector) :
    (keep selector).run results = (resolve results selector, retain results selector) := rfl

theorem run_mapM_keep_cons (results : List RegionResult) (selector : PageSelector)
    (rest : List PageSelector) :
    ((selector :: rest).mapM keep).run results =
      let later := (rest.mapM keep).run (retain results selector)
      (resolve results selector :: later.1, later.2) := by
  rw [List.mapM_cons]
  rfl

/-- Each selector gives what it picks out of the first list, and the last one leaves its marks. -/
theorem run_mapM_keep (results : List RegionResult) (selectors : List PageSelector) :
    (selectors.mapM keep).run results =
      (selectors.map (resolve results), selectors.getLast?.elim results (retain results)) := by
  induction selectors generalizing results with
  | nil => rfl
  | cons selector rest ih =>
    have hresolve : resolve (retain results selector) = resolve results :=
      funext fun _ => resolve_retain
    have hretain : retain (retain results selector) = retain results :=
      funext fun _ => retain_retain
    rw [run_mapM_keep_cons, ih, hresolve, hretain]
    cases rest <;> rfl

/-- If selectors are applied one after the other, each gives the number of the result that it picks
out of the first list, and the results are left as the last selector alone leaves them: the one that
it picks is marked, no other one is, and nothing else has changed. -/
theorem keep_last (results : List RegionResult) {selectors : List PageSelector}
    (h : selectors ≠ []) :
    ∃ final, (selectors.mapM keep).run results = (selectors.map (resolve results), final) ∧
      (keep (selectors.getLast h)).run results =
        (resolve results (selectors.getLast h), final) ∧
      (∀ i, HoldsAt final RegionResult.isRetained i ↔
        resolve results (selectors.getLast h) = some i) ∧
      final.map RegionResult.unmarked = results.map RegionResult.unmarked := by
  refine ⟨retain results (selectors.getLast h), ?_, run_keep _ _, fun i => holdsAt_retain_iff,
    map_unmarked_retain⟩
  rw [run_mapM_keep, List.getLast?_eq_some_getLast h, Option.elim_some]

/-- Two marks, the wrong ones, and three selectors, of which the second picks nothing. -/
theorem keep_last_three :
    let results : List RegionResult :=
      [{ text := "a", values := some [], isRetained := true }, { text := "b", isRetained := true },
        { text := "c", values := some [("nr", "1")] }]
    let selectors : List PageSelector := [.firstMatch, .exactPage 7, .lastMatch]
    selectors ≠ [] ∧
      ∃ final, (selectors.mapM keep).run results = ([some 0, none, some 2], final) ∧
        (∀ i, HoldsAt final RegionResult.isRetained i ↔ i = 2) ∧
        final.map RegionResult.unmarked = results.map RegionResult.unmarked := by
  intro results selectors
  have hne : selectors ≠ [] := List.cons_ne_nil _ _
  obtain ⟨final, hrun, -, hmarks, hrest⟩ := keep_last results hne
  have hlast : resolve results (selectors.getLast hne) = some 2 := rfl
  refine ⟨hne, final, hrun, fun i => (hmarks i).trans ?_, hrest⟩
  rw [hlast, Option.some_inj, eq_comm]

end Dossier
