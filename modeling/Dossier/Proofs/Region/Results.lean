import Dossier.Proofs.Check.Faults

/-!
# The results of a region

A region gives one result for each page of a document, and keeps at most one of them.

* `PageSelector.Picks` : the page that a choice of page picks;
* `resolve_eq_some` : this is the page that is found;
* `holdsAt_retain` : the result of this page is marked as kept, and no other one;
* `Region.WellFormed` : what holds of the results of a region;
* `Region.retainedOf_results` : the result that counts is the one that is marked;
* `Region.results_values` : the values in a result of a region are those of a match;
* `Region.results_wellFormed` : the results of every region are well-formed.
-/

namespace Dossier

/-! ## Choices of a page -/

/-- A page has a result with a property. -/
def HoldsAt (results : List RegionResult) (p : RegionResult → Bool) (i : Nat) : Prop :=
  ∃ result, results[i]? = some result ∧ p result = true

/-- A choice of a page picks a page, given the results of all pages. -/
def PageSelector.Picks (results : List RegionResult) : PageSelector → Nat → Prop
  | exactPage index, i => i = index ∧ i < results.length
  | firstPage, i => i = 0 ∧ i < results.length
  | lastPage, i => i + 1 = results.length
  | firstMatch, i =>
    HoldsAt results RegionResult.hasMatch i ∧ ∀ j, j < i → ¬HoldsAt results RegionResult.hasMatch j
  | lastMatch, i =>
    HoldsAt results RegionResult.hasMatch i ∧ ∀ j, i < j → ¬HoldsAt results RegionResult.hasMatch j

section

variable {results : List RegionResult} {p : RegionResult → Bool} {i j : Nat}

theorem holdsAt_iff : HoldsAt results p i ↔ ∃ h : i < results.length, p results[i] = true := by
  constructor
  · rintro ⟨result, hresult, hp⟩
    obtain ⟨h, rfl⟩ := List.getElem?_eq_some_iff.mp hresult
    exact ⟨h, hp⟩
  · rintro ⟨h, hp⟩
    exact ⟨_, List.getElem?_eq_getElem h, hp⟩

theorem HoldsAt.lt (h : HoldsAt results p i) : i < results.length := (holdsAt_iff.mp h).1

theorem exists_holdsAt : (∃ i, HoldsAt results p i) ↔ ∃ result ∈ results, p result = true := by
  constructor
  · rintro ⟨i, result, hresult, hp⟩
    exact ⟨result, List.mem_of_getElem? hresult, hp⟩
  · rintro ⟨result, hmem, hp⟩
    obtain ⟨i, hi⟩ := List.getElem?_of_mem hmem
    exact ⟨i, result, hi, hp⟩

theorem holdsAt_reverse (h : i < results.length) :
    HoldsAt results.reverse p i ↔ HoldsAt results p (results.length - 1 - i) := by
  unfold HoldsAt
  rw [List.getElem?_reverse h]

theorem findIdx?_holdsAt :
    results.findIdx? p = some i ↔ HoldsAt results p i ∧ ∀ j, j < i → ¬HoldsAt results p j := by
  rw [List.findIdx?_eq_some_iff_getElem, holdsAt_iff]
  constructor
  · rintro ⟨h, hp, hnone⟩
    refine ⟨⟨h, hp⟩, fun j hj hp' => ?_⟩
    obtain ⟨_, hp'⟩ := holdsAt_iff.mp hp'
    exact hnone j hj hp'
  · rintro ⟨⟨h, hp⟩, hnone⟩
    exact ⟨h, hp, fun j hj hp' => hnone j hj (holdsAt_iff.mpr ⟨by omega, hp'⟩)⟩

/-- The last page with a property is the first one from behind. -/
theorem findIdx?_reverse_holdsAt :
    (results.reverse.findIdx? p).map (fun j => results.length - 1 - j) = some i ↔
      HoldsAt results p i ∧ ∀ j, i < j → ¬HoldsAt results p j := by
  simp only [Option.map_eq_some_iff, findIdx?_holdsAt]
  -- Both ways a page is counted from behind, and counting so twice gives the page again.
  constructor
  · rintro ⟨k, ⟨hk, hnone⟩, rfl⟩
    have hlength : k < results.length := by simpa using hk.lt
    refine ⟨(holdsAt_reverse hlength).mp hk, fun j hj hp => ?_⟩
    have hj' := hp.lt
    have hback : results.length - 1 - (results.length - 1 - j) = j := by omega
    refine hnone (results.length - 1 - j) (by omega) ((holdsAt_reverse (by omega)).mpr ?_)
    rwa [hback]
  · rintro ⟨hi, hnone⟩
    have hlength := hi.lt
    have hback : results.length - 1 - (results.length - 1 - i) = i := by omega
    refine ⟨results.length - 1 - i, ⟨(holdsAt_reverse (by omega)).mpr (by rwa [hback]), ?_⟩, hback⟩
    intro j hj hp
    exact hnone _ (by omega) ((holdsAt_reverse (by omega)).mp hp)

variable {selector : PageSelector}

/-- The page that is found is the one that is picked. -/
theorem resolve_eq_some : resolve results selector = some i ↔ selector.Picks results i := by
  cases selector with
  | exactPage index =>
    simp only [resolve, PageSelector.Picks]
    split <;> simp <;> omega
  | firstPage =>
    cases results <;> simp [resolve, PageSelector.Picks, eq_comm]
    omega
  | lastPage =>
    cases results <;> simp [resolve, PageSelector.Picks, eq_comm]
  | firstMatch => exact findIdx?_holdsAt
  | lastMatch => exact findIdx?_reverse_holdsAt

-- The last match need not stand on the last page.
example : resolve [{ text := "a", values := some [] }, { text := "b" }] .lastMatch = some 0 := by
  decide

/-- Only pages with a result are picked. -/
theorem PageSelector.Picks.lt (h : selector.Picks results i) : i < results.length := by
  cases selector with
  | exactPage | firstPage => exact h.2
  | lastPage => exact Nat.lt_of_succ_le (Nat.le_of_eq h)
  | firstMatch | lastMatch => exact h.1.lt

/-- No more than one page is picked. -/
theorem PageSelector.Picks.unique (h : selector.Picks results i) (h' : selector.Picks results j) :
    i = j :=
  Option.some.inj ((resolve_eq_some.mpr h).symm.trans (resolve_eq_some.mpr h'))

/-- The choices that look for a match pick a page just if there is one. -/
theorem exists_picks (h : selector = .firstMatch ∨ selector = .lastMatch) :
    (∃ i, selector.Picks results i) ↔ ∃ result ∈ results, result.hasMatch = true := by
  simp only [← resolve_eq_some, ← Option.isSome_iff_exists]
  rcases h with rfl | rfl <;> simp [resolve]

end

/-! ## Marks -/

section

variable {results : List RegionResult} {selector : PageSelector} {i : Nat}

theorem getElem?_retain :
    (retain results selector)[i]? =
      results[i]?.map fun r => { r with isRetained := resolve results selector == some i } := by
  rw [retain, List.getElem?_mapIdx]

/-- Marks make no difference to which page is picked, by whatever choice they were made. -/
theorem picks_retain {choice : PageSelector} :
    choice.Picks (retain results selector) i ↔ choice.Picks results i := by
  have hlength : (retain results selector).length = results.length := by simp [retain]
  have hmatch : ∀ j, HoldsAt (retain results selector) RegionResult.hasMatch j ↔
      HoldsAt results RegionResult.hasMatch j := by
    intro j
    unfold HoldsAt
    rw [getElem?_retain]
    cases results[j]? <;> simp [RegionResult.hasMatch]
  cases choice <;> simp only [PageSelector.Picks, hlength, hmatch]

/-- The result of the page that is picked is marked, and no other one. -/
theorem holdsAt_retain :
    HoldsAt (retain results selector) RegionResult.isRetained i ↔
      selector.Picks (retain results selector) i := by
  rw [picks_retain]
  unfold HoldsAt
  rw [getElem?_retain]
  constructor
  · rintro ⟨_, hresult, hkept⟩
    obtain ⟨_, -, rfl⟩ := Option.map_eq_some_iff.mp hresult
    exact resolve_eq_some.mp (by simpa using hkept)
  · intro h
    refine ⟨_, by rw [List.getElem?_eq_getElem h.lt, Option.map_some], ?_⟩
    simp [resolve_eq_some.mpr h]

theorem map_text_retain :
    (retain results selector).map RegionResult.text = results.map RegionResult.text := by
  refine List.ext_getElem? fun i => ?_
  rw [List.getElem?_map, List.getElem?_map, getElem?_retain, Option.map_map]
  rfl

/-- The first result that is marked is the only one. -/
theorem retainedOf_retain {kept : RegionResult} :
    retainedOf (retain results selector) = some kept ↔
      kept ∈ retain results selector ∧ kept.isRetained = true := by
  constructor
  · intro h
    exact ⟨List.mem_of_find?_eq_some h, List.find?_some h⟩
  · rintro ⟨hmem, hkept⟩
    obtain ⟨first, hfirst⟩ := Option.isSome_iff_exists.mp
      (List.find?_isSome.mpr ⟨kept, hmem, hkept⟩)
    obtain ⟨i, hi⟩ := List.getElem?_of_mem hmem
    obtain ⟨j, hj⟩ := List.getElem?_of_mem (List.mem_of_find?_eq_some hfirst)
    have hij : j = i := (holdsAt_retain.mp ⟨first, hj, List.find?_some hfirst⟩).unique
      (holdsAt_retain.mp ⟨kept, hi, hkept⟩)
    rw [retainedOf, hfirst, ← hj, ← hi, hij]

end

/-! ## Regions -/

section

variable {compiled : Except ExpressionError Compiled} {text : String}

theorem extract_text : (extract compiled text).text = text := by
  rcases extract_cases compiled text with ⟨_, -, h⟩ | ⟨_, -, -, h⟩ | ⟨_, _, -, -, -, h⟩ <;> rw [h]

/-- Values and places are reported together. -/
theorem extract_both :
    (extract compiled text).values.isSome = (extract compiled text).positions.isSome := by
  rcases extract_cases compiled text with ⟨_, -, h⟩ | ⟨_, -, -, h⟩ | ⟨_, _, -, -, -, h⟩ <;>
    (rw [h]; rfl)

/-- With an error there is neither. -/
theorem extract_apart (herror : (extract compiled text).error.isSome = true) :
    (extract compiled text).values = none ∧ (extract compiled text).positions = none := by
  rcases extract_cases compiled text with ⟨_, -, h⟩ | ⟨_, -, -, h⟩ | ⟨_, _, -, -, -, h⟩
  · rw [h]
    exact ⟨rfl, rfl⟩
  · rw [h]
    exact ⟨rfl, rfl⟩
  · rw [h] at herror
    cases herror

/-- The values on a page are those of a match. -/
theorem extract_values {values : List (String × String)} :
    (extract compiled text).values = some values ↔
      text ≠ "" ∧ ∃ c found, compiled = .ok c ∧ c.find text = some found ∧ found.values = values := by
  rcases extract_cases compiled text with ⟨e, rfl, h⟩ | ⟨c, rfl, hnone, h⟩ |
    ⟨c, found, rfl, hne, hfound, h⟩
  · simp [h]
  · rcases hnone with rfl | hnone <;> simp_all
  · simp [h, hne, hfound]

end

namespace Region

/-- What holds of the results of a region on the pages of a document. -/
structure WellFormed (r : Region) (d : Document) (config : Config) (results : List RegionResult) :
    Prop where
  /-- There is one result for each page, with the text in the area. -/
  texts : results.map RegionResult.text =
    d.pages.map fun page => page.regionText r.rect config.layout.lineTopInset
  /-- There are values just if there are places. -/
  both : ∀ result ∈ results, result.values.isSome = result.positions.isSome
  /-- The error of the expression stands on all pages, and without one no page has an error. -/
  error : ∀ result ∈ results, result.error = r.fault config
  /-- A page with values or places has no error. -/
  apart : ∀ result ∈ results, result.error.isSome = true →
    result.values = none ∧ result.positions = none
  /-- There is no match in an empty text. -/
  empty : ∀ result ∈ results, result.text = "" → result.hasMatch = false
  /-- There is a match in any other text just if the expression compiles and finds something. -/
  found : ∀ result ∈ results, result.text ≠ "" → (result.hasMatch = true ↔
    ∃ c found, r.compile config.expression.sizeLimit = .ok c ∧ c.find result.text = some found)
  /-- The result of the page that is picked is kept, and no other one. -/
  kept : ∀ i, HoldsAt results RegionResult.isRetained i ↔ r.page.Picks results i
  /-- At most one result is kept. -/
  unique : ∀ i j, HoldsAt results RegionResult.isRetained i →
    HoldsAt results RegionResult.isRetained j → i = j
  /-- If a match is looked for, then some result is kept just if there is a match. -/
  sought : r.page = .firstMatch ∨ r.page = .lastMatch →
    ((∃ result ∈ results, result.isRetained = true) ↔ ∃ result ∈ results, result.hasMatch = true)

variable {r : Region} {d : Document} {config : Config}

/-- The result that counts is the one that is kept. -/
theorem retainedOf_results {kept : RegionResult} :
    retainedOf (r.results d config) = some kept ↔
      kept ∈ r.results d config ∧ kept.isRetained = true := retainedOf_retain

/-- The values in a result of a region are those of a match of its expression. -/
theorem results_values {result : RegionResult} (h : result ∈ r.results d config)
    {values : List (String × String)} :
    result.values = some values ↔ result.text ≠ "" ∧ ∃ c found,
      r.compile config.expression.sizeLimit = .ok c ∧ c.find result.text = some found ∧
        found.values = values := by
  obtain ⟨page, -, kept, rfl⟩ := mem_results h
  simp only [extract_text]
  exact extract_values

/-- There is a match on a page just if there is text, and the expression compiles and finds
something in it. -/
theorem results_hasMatch {result : RegionResult} (h : result ∈ r.results d config) :
    result.hasMatch = true ↔ result.text ≠ "" ∧ ∃ c found,
      r.compile config.expression.sizeLimit = .ok c ∧ c.find result.text = some found := by
  rw [RegionResult.hasMatch, Option.isSome_iff_exists]
  simp only [results_values h]
  constructor
  · rintro ⟨values, hne, c, found, hc, hfound, -⟩
    exact ⟨hne, c, found, hc, hfound⟩
  · rintro ⟨hne, c, found, hc, hfound⟩
    exact ⟨found.values, hne, c, found, hc, hfound, rfl⟩

/-- The results of every region are well-formed. -/
theorem results_wellFormed (r : Region) (d : Document) (config : Config) :
    r.WellFormed d config (r.results d config) where
  texts := by simp [results, map_text_retain, extract_text]
  both result h := by
    obtain ⟨page, -, kept, rfl⟩ := mem_results h
    exact extract_both
  error result h := results_error h
  apart result h herror := by
    obtain ⟨page, -, kept, rfl⟩ := mem_results h
    exact extract_apart herror
  empty result h hempty := by
    rw [Bool.eq_false_iff, Ne, results_hasMatch h]
    exact fun hmatch => hmatch.1 hempty
  found result h hne := by
    rw [results_hasMatch h]
    exact and_iff_right hne
  kept i := holdsAt_retain
  unique i j hi hj := (holdsAt_retain.mp hi).unique (holdsAt_retain.mp hj)
  sought h := by
    rw [← exists_holdsAt, ← exists_picks h]
    exact exists_congr fun i => holdsAt_retain

end Region

end Dossier
