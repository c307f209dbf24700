import Dossier.Proofs.Check.Regions
import Dossier.Proofs.Expression.Names
import Dossier.Proofs.Expression.Places
import Dossier.Proofs.Expression.Values
import Dossier.Proofs.Region.Kept

/-!
# Regions with simple expressions

Every placeholder of a simple expression takes part in every match and takes at least one
character. So there is a value for each placeholder and none is empty, and the places of the values
lie one after the other in the text. A condition on a region with a simple expression therefore
holds as soon as there is a match on the page that is kept.

* `Laid` : places lie one after the other in a stretch of a text;
* `findItems_laid` : so do those of a match of items;
* `find_keys_perm`, `find_shows` : a match has a value and a place for each placeholder;
* `hasValue_of_simple` : with a simple expression a match is always of use;
* `simple_participants` : all of this, with the verdict on a region.
-/

namespace Dossier

open Regex

/-! ## What items take -/

theorem DecimalSign.le_of_mem_decimals {sign : DecimalSign} {rest : List Char} {n : Nat}
    (h : n ∈ sign.decimals rest) : n ≤ rest.length := by
  cases rest with
  | nil => exact Nat.le_of_eq (List.mem_singleton.mp h)
  | cons c rest =>
    rw [DecimalSign.decimals] at h
    split at h
    · rcases List.mem_append.mp h with h | h
      · obtain ⟨k, hk, rfl⟩ := List.mem_map.mp h
        have := (mem_longestFirst.mp hk).2
        have := runLength_le_length Char.isDigit rest
        rw [List.length_cons]
        omega
      · obtain rfl := List.mem_singleton.mp h
        exact Nat.zero_le _
    · obtain rfl := List.mem_singleton.mp h
      exact Nat.zero_le _

theorem of_mem_longestFirst {least n : Nat} {p : Char → Bool} {rest : List Char}
    (h : n ∈ longestFirst least p rest) : least ≤ n ∧ n ≤ rest.length :=
  ⟨(mem_longestFirst.mp h).1, Nat.le_trans (mem_longestFirst.mp h).2 (runLength_le_length p rest)⟩

/-- A placeholder takes some characters of the text. -/
theorem Capture.of_mem_lengths {capture : Capture} {rest : List Char} {n : Nat}
    (h : n ∈ capture.lengths rest) : 0 < n ∧ n ≤ rest.length := by
  cases capture with
  | word | int => exact of_mem_longestFirst h
  | number sign =>
    obtain ⟨k, hk, h⟩ := List.mem_flatMap.mp h
    obtain ⟨j, hj, rfl⟩ := List.mem_map.mp h
    have hfirst := of_mem_longestFirst hk
    have hdecimals := DecimalSign.le_of_mem_decimals hj
    rw [List.length_drop] at hdecimals
    omega

/-- An item takes no more characters than there are. -/
theorem Item.le_of_mem_lengths {item : Item} {rest : List Char} {n : Nat}
    (h : n ∈ item.lengths rest) : n ≤ rest.length := by
  have hone : ∀ p : Char → Bool, n ∈ oneChar p rest → n ≤ rest.length := by
    intro p hn
    cases rest with
    | nil => cases hn
    | cons c rest =>
      unfold oneChar at hn
      split at hn
      · obtain rfl := List.mem_singleton.mp hn
        simp
      · cases hn
  cases item with
  | char | anyChar => exact hone _ h
  | blank => exact (of_mem_longestFirst h).2
  | anyText => exact Nat.le_of_lt_succ (List.mem_range.mp h)
  | placeholder name capture => exact (Capture.of_mem_lengths h).2

/-! ## The order of the captured places -/

/-- Places lie one after the other between two offsets, and none of them is empty. -/
def Laid : Nat → List (Nat × Nat) → Nat → Prop
  | start, [], stop => start ≤ stop
  | start, place :: places, stop =>
    start ≤ place.1 ∧ place.1 < place.2 ∧ Laid place.2 places stop

namespace Laid

variable {start start' stop : Nat} {places : List (Nat × Nat)}

theorem of_le (hstart : start' ≤ start) (h : Laid start places stop) : Laid start' places stop := by
  cases places with
  | nil => exact Nat.le_trans hstart h
  | cons place places => exact ⟨Nat.le_trans hstart h.1, h.2⟩

theorem inside (h : Laid start places stop) :
    start ≤ stop ∧ ∀ place ∈ places, start ≤ place.1 ∧ place.1 < place.2 ∧ place.2 ≤ stop := by
  induction places generalizing start with
  | nil => exact ⟨h, by simp⟩
  | cons place places ih =>
    obtain ⟨hstart, hplace, hrest⟩ := h
    obtain ⟨hstop, hplaces⟩ := ih hrest
    refine ⟨by omega, List.forall_mem_cons.mpr ⟨⟨hstart, hplace, hstop⟩, fun other hother => ?_⟩⟩
    have := hplaces other hother
    omega

/-- No place starts before the ones in front of it end. -/
theorem order (h : Laid start places stop) : places.Pairwise fun a b => a.2 ≤ b.1 := by
  induction places generalizing start with
  | nil => exact .nil
  | cons place places ih =>
    exact List.pairwise_cons.mpr ⟨fun other hother => (h.2.2.inside.2 other hother).1, ih h.2.2⟩

end Laid

/-- The places that items capture lie one after the other in the text that is left. -/
theorem matchItems_laid {items : List Item} {offset : Nat} {rest : List Char}
    {found : List (String × Nat × Nat)} (h : matchItems items offset rest = some found) :
    Laid offset (found.map Prod.snd) (offset + rest.length) := by
  induction items generalizing offset rest found with
  | nil =>
    cases h
    exact Nat.le_add_right _ _
  | cons item items ih =>
    obtain ⟨n, hn, h⟩ := List.exists_of_findSome?_eq_some h
    obtain ⟨found', hfound, rfl⟩ := Option.map_eq_some_iff.mp h
    have hle := Item.le_of_mem_lengths hn
    have hlaid := ih hfound
    rw [List.length_drop, show offset + n + (rest.length - n) = offset + rest.length by omega]
      at hlaid
    -- A placeholder adds a place in front of the others; what other items take lies between places.
    cases item with
    | placeholder name capture =>
      have hpos := (Capture.of_mem_lengths hn).1
      exact ⟨Nat.le_refl _, Nat.lt_add_of_pos_right hpos, hlaid⟩
    | char | blank | anyText | anyChar => exact hlaid.of_le (Nat.le_add_right _ _)

theorem findItems_laid {items : List Item} {offset : Nat} {rest : List Char}
    {found : List (String × Nat × Nat)} (h : findItems items offset rest = some found) :
    Laid offset (found.map Prod.snd) (offset + rest.length) := by
  induction rest generalizing offset with
  | nil => exact matchItems_laid h
  | cons c rest ih =>
    rcases Option.or_eq_some_iff.mp h with h | ⟨-, h⟩
    · exact matchItems_laid h
    · have hlaid := (ih h).of_le (Nat.le_add_right offset 1)
      rwa [Nat.add_assoc, Nat.add_comm 1, ← List.length_cons] at hlaid

/-! ## Matches of simple expressions -/

theorem cut_ne_empty {text : List Char} {place : Nat × Nat} (hplace : place.1 < place.2)
    (hstop : place.2 ≤ text.length) : Compiled.cut text place ≠ "" := by
  intro h
  have hlength := congrArg String.length h
  rw [Compiled.cut, String.length_ofList, List.length_take, List.length_drop] at hlength
  simp at hlength
  omega

section

variable {e : String} {limit : Nat} {c : Compiled} {text : String} {found : GroupMatch}

/-- What a simple expression finds: the places of its placeholders, and what stands there. -/
theorem exists_places_of_simple (h : (Expression.simple e).compile limit = .ok c)
    (hfind : c.find text = some found) :
    ∃ places : List (String × Nat × Nat), places.map Prod.fst = placeholderNamesIn e ∧
      found = groupMatch text.toList places ∧
      found.values.Perm (places.map fun g => (g.1, Compiled.cut text.toList g.2)) ∧
      Laid 0 found.positions text.length := by
  obtain ⟨items, hitems, -⟩ := compile_simple h
  rw [find_of_readItems h hitems] at hfind
  obtain ⟨places, hplaces, rfl⟩ := Option.map_eq_some_iff.mp hfind
  have hnames := findItems_names hplaces
  have hlaid := findItems_laid hplaces
  rw [Nat.zero_add, String.length_toList] at hlaid
  refine ⟨places, hnames.trans (placeholderNames_readItems hitems), rfl, entriesOf_perm ?_, hlaid⟩
  rw [List.map_map]
  show (places.map Prod.fst).Nodup
  rw [hnames]
  exact (properNames_readItems hitems).1

/-- The names of the values are those of all placeholders. -/
theorem find_keys_perm (h : (Expression.simple e).compile limit = .ok c)
    (hfind : c.find text = some found) :
    (found.values.map Prod.fst).Perm (placeholderNamesIn e) := by
  obtain ⟨places, hnames, -, hperm, -⟩ := exists_places_of_simple h hfind
  have hkeys := hperm.map Prod.fst
  rw [List.map_map] at hkeys
  exact hnames ▸ hkeys

/-- No value is empty. -/
theorem find_values_ne_empty (h : (Expression.simple e).compile limit = .ok c)
    (hfind : c.find text = some found) {value : String}
    (hvalue : value ∈ found.values.map Prod.snd) : value ≠ "" := by
  obtain ⟨places, -, rfl, hperm, hlaid⟩ := exists_places_of_simple h hfind
  obtain ⟨_, hmem, rfl⟩ := List.mem_map.mp hvalue
  obtain ⟨g, hg, rfl⟩ := List.mem_map.mp (hperm.mem_iff.mp hmem)
  obtain ⟨-, hplace, hstop⟩ := hlaid.inside.2 g.2 (List.mem_map_of_mem hg)
  exact cut_ne_empty hplace (String.length_toList ▸ hstop)

/-- There is a place for each placeholder, in the order in which they stand. -/
theorem find_shows (h : (Expression.simple e).compile limit = .ok c)
    (hfind : c.find text = some found) :
    List.Forall₂ (fun name place => place.1 < place.2 ∧ found.Shows text name place)
      (placeholderNamesIn e) found.positions := by
  obtain ⟨places, hnames, hfound, hperm, hlaid⟩ := exists_places_of_simple h hfind
  have hpositions : found.positions = places.map Prod.snd := by rw [hfound]; rfl
  have hkeys := (find_increasing hfind).nodup_keys
  rw [← hnames, hpositions, List.forall₂_map_left_iff, List.forall₂_map_right_iff,
    List.forall₂_same]
  intro g hg
  obtain ⟨-, hplace, hstop⟩ := hlaid.inside.2 g.2 (hpositions ▸ List.mem_map_of_mem hg)
  have hvalue : (g.1, Compiled.cut text.toList g.2) ∈ found.values :=
    hperm.mem_iff.mpr (List.mem_map.mpr ⟨g, hg, rfl⟩)
  exact ⟨hplace, Nat.le_of_lt hplace, hstop, _, lookup_of_mem hkeys hvalue,
    by rw [Compiled.cut, String.toList_ofList]⟩

theorem groupNames_of_simple (h : (Expression.simple e).compile limit = .ok c) :
    c.groupNames = placeholderNamesIn e := by
  obtain ⟨items, hitems, -⟩ := compile_simple h
  rw [groupNames_of_readItems h hitems, placeholderNames_readItems hitems]

end

/-! ## Regions -/

/-- With a simple expression a match is always of use: there is text in every group. -/
theorem hasValue_of_simple {e : String} {r : Region} {d : Document} {config : Config} {c : Compiled}
    (hsimple : r.expression.active = .simple e)
    (hc : r.compile config.expression.sizeLimit = .ok c) {result : RegionResult}
    (hresult : result ∈ r.results d config) :
    result.hasValue c.groupNames = result.hasMatch := by
  have h : (Expression.simple e).compile config.expression.sizeLimit = .ok c := by
    rw [← hc, Region.compile, hsimple]
  rw [Bool.eq_iff_iff, RegionResult.hasValue_iff, RegionResult.hasMatch, Option.isSome_iff_exists]
  refine exists_congr fun values => and_iff_left_of_imp fun hvalues => ?_
  obtain ⟨-, c', found, hc', hfind, rfl⟩ := (Region.results_values hresult).mp hvalues
  obtain rfl : c = c' := Except.ok.inj (hc.symm.trans hc')
  -- If there is a placeholder at all, then any of them will do, as each has text.
  rw [groupNames_of_simple h]
  refine Classical.or_iff_not_imp_left.mpr fun hne => ?_
  obtain ⟨name, hname⟩ := List.exists_mem_of_ne_nil _ hne
  obtain ⟨⟨_, value⟩, hmem, rfl⟩ := List.mem_map.mp ((find_keys_perm h hfind).mem_iff.mpr hname)
  exact ⟨_, hname, value, lookup_of_mem (find_increasing hfind).nodup_keys hmem,
    find_values_ne_empty h hfind (List.mem_map_of_mem hmem)⟩

/-- All placeholders of a simple expression take part in every match, with some text each, at places
that lie one after the other. So a condition on a region with this expression holds just if there is
a match on the page that is kept. -/
theorem simple_participants {e : String} {limit : Nat} {c : Compiled}
    (h : (Expression.simple e).compile limit = .ok c) :
    (∀ text found, c.find text = some found →
      (found.values.map Prod.fst).Perm (placeholderNamesIn e) ∧
      (∀ value ∈ found.values.map Prod.snd, value ≠ "") ∧
      List.Forall₂ (fun name place => place.1 < place.2 ∧ found.Shows text name place)
        (placeholderNamesIn e) found.positions ∧
      found.positions.Pairwise fun a b => a.2 ≤ b.1) ∧
    ∀ (r : Region) (d : Document) (config : Config) (rs : List Region),
      r.expression.active = .simple e → config.expression.sizeLimit = limit →
      (∀ result ∈ r.results d config, result.hasValue c.groupNames = result.hasMatch ∧
        (result.hasMatch = true ↔ result.text ≠ "" ∧ (c.find result.text).isSome = true)) ∧
      (((Check.region r).evaluate (CheckContext.after d config rs)).passed = true ↔
        ∃ kept ∈ r.results d config, kept.isRetained = true ∧ kept.hasMatch = true) := by
  refine ⟨fun text found hfind => ⟨find_keys_perm h hfind, fun value hvalue => ?_, find_shows h hfind,
    ?_⟩, fun r d config rs hsimple hlimit => ?_⟩
  · exact find_values_ne_empty h hfind hvalue
  · obtain ⟨-, -, -, -, hlaid⟩ := exists_places_of_simple h hfind
    exact hlaid.order
  have hc : r.compile config.expression.sizeLimit = .ok c := by
    rw [Region.compile, hsimple, hlimit, h]
  refine ⟨fun result hresult => ⟨hasValue_of_simple hsimple hc hresult, ?_⟩, ?_⟩
  · rw [Region.results_hasMatch hresult, Option.isSome_iff_exists, hc]
    simp
  · rw [Region.passed_after d rs hc]
    refine exists_congr fun kept => and_congr_right fun hkept => ?_
    rw [hasValue_of_simple hsimple hc hkept]

/-- A sum with its unit, on the only page of a document. -/
theorem simple_participants_sum :
    let e := "<sum:int> <unit:word>"
    let run : TextRun := ⟨⟨10, 10, 50, 20⟩, "Total 5 EUR"⟩
    let d : Document := { id := 1, pages := [{ runs := [run] }] }
    let r : Region := { rect := ⟨0, 0, 100, 100⟩
                        expression := (Expression.simple e).toRegionExpression }
    ∃ c found, (Expression.simple e).compile 1048576 = .ok c ∧ c.find run.text = some found ∧
      found.positions = [(6, 7), (8, 11)] ∧
      List.Forall₂ (fun name place => place.1 < place.2 ∧ found.Shows run.text name place)
        (placeholderNamesIn e) found.positions ∧
      ((Check.region r).evaluate (CheckContext.after d {} [])).passed = true := by
  intro e run d r
  let items : List Item := [.placeholder "sum" .int, .blank, .placeholder "unit" .word]
  let c : Compiled := ⟨.simple e, String.ofList (patternOf items), treeOf items⟩
  let found : GroupMatch := ⟨[("sum", "5"), ("unit", "EUR")], [(6, 7), (8, 11)]⟩
  have hitems : readItems "<sum:int> <unit:word>" =
      .ok [.placeholder "sum" .int, .blank, .placeholder "unit" .word] := by rfl
  have hfits : (treeOf items).fits 1048576 = true := by decide +kernel
  have hcompile : (Expression.simple e).compile 1048576 = .ok c := compile_of_readItems hitems hfits
  have hfind : c.find "Total 5 EUR" = some found := by
    rw [find_of_readItems hcompile hitems]
    decide +kernel
  have hextract : extract ((Expression.simple e).compile 1048576) run.text =
      { text := run.text, values := some found.values, positions := some found.positions } :=
    extract_simple hitems hfits rfl (by decide +kernel)
  have hkept := @kept_of_corner _ d {} _ rfl _ _ hextract
  obtain ⟨hmem, hretained⟩ := Region.retainedOf_results.mp hkept
  obtain ⟨hmatches, hregions⟩ := simple_participants hcompile
  exact ⟨c, found, hcompile, hfind, rfl, (hmatches _ _ hfind).2.2.1,
    (hregions r d {} [] rfl rfl).2.mpr ⟨_, hmem, hretained, rfl⟩⟩

end Dossier
