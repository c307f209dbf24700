import Dossier.Proofs.Entries
import Dossier.Proofs.Expression.Blanks
import Dossier.Proofs.Expression.Matching

/-!
# The values of simple expressions

What a placeholder captures depends on the characters alone that follow a place, not on how many
stand in front of it.

* `matchValues` : matching without places, from the start of a text;
* `firstAt` : the leftmost start that gives anything;
* `find_values` : the values that an expression finds are those of its items;
* `find_taken` : the value of a placeholder is taken from the text by its item;
* `sampleOf`, `find_sampleOf` : a text in which an expression finds something.
-/

namespace Dossier

open Regex

/-- What an item captures that takes the given characters. -/
def Item.valued (taken : List Char) : Item → List (String × String)
  | placeholder name _ => [(name, String.ofList taken)]
  | _ => []

/-- The first way to match items at the start of a text: the values that they capture. -/
def matchValues : List Item → List Char → Option (List (String × String))
  | [], _ => some []
  | item :: items, rest =>
    (item.lengths rest).findSome? fun n =>
      (matchValues items (rest.drop n)).map (item.valued (rest.take n) ++ ·)

section FirstAt

variable {α : Type}

/-- The value of the longest suffix of a text that has one. -/
def firstAt (f : List Char → Option α) : List Char → Option α
  | [] => f []
  | c :: rest => (f (c :: rest)).or (firstAt f rest)

theorem firstAt_eq (f : List Char → Option α) (text : List Char) :
    (List.range (text.length + 1)).findSome? (fun n => f (text.drop n)) = firstAt f text := by
  induction text with
  | nil => simp [firstAt]
  | cons c rest ih =>
    rw [List.length_cons, List.range_succ_eq_map, List.findSome?_cons, List.findSome?_map, firstAt,
      ← ih, List.drop_zero]
    cases hf : f (c :: rest) <;> rfl

theorem eq_none_of_firstAt {f : List Char → Option α} {text : List Char}
    (h : firstAt f text = none) : f text = none := by
  cases text with
  | nil => exact h
  | cons c rest => exact (Option.or_eq_none_iff.mp h).1

end FirstAt

/-- The values at the captured places of a text. -/
def valuesAt (text : List Char) (found : List (String × Nat × Nat)) : List (String × String) :=
  found.map fun g => (g.1, Compiled.cut text g.2)

theorem matchItems_values {items : List Item} {text rest : List Char} {offset : Nat}
    (h : text.drop offset = rest) :
    (matchItems items offset rest).map (valuesAt text) = matchValues items rest := by
  induction items generalizing offset rest with
  | nil => rfl
  | cons item items ih =>
    rw [matchItems, matchValues, List.map_findSome?]
    congr 1
    funext n
    have hnext : text.drop (offset + n) = rest.drop n := by rw [← h, List.drop_drop]
    have hcaptured : valuesAt text (item.captured offset n) = item.valued (rest.take n) := by
      cases item <;> simp [valuesAt, Item.captured, Item.valued, Compiled.cut, h]
    rw [← ih hnext, ← hcaptured]
    simp [Option.map_map, Function.comp_def, valuesAt]

theorem findItems_values {items : List Item} {text rest : List Char} {offset : Nat}
    (h : text.drop offset = rest) :
    (findItems items offset rest).map (valuesAt text) = firstAt (matchValues items) rest := by
  induction rest generalizing offset with
  | nil => exact matchItems_values h
  | cons c rest ih =>
    have hnext : text.drop (offset + 1) = rest := by
      rw [← List.drop_drop, h]
      rfl
    rw [findItems, firstAt, ← matchItems_values h, ← ih hnext]
    cases matchItems items offset (c :: rest) <;> rfl

/-- The values that an expression finds do not depend on where they stand. -/
theorem find_values {e : String} {limit : Nat} {c : Compiled} {items : List Item}
    (h : (Expression.simple e).compile limit = .ok c) (hitems : readItems e = .ok items)
    (text : String) :
    (c.find text).map GroupMatch.values =
      (firstAt (matchValues items) text.toList).map entriesOf := by
  rw [find_of_readItems h hitems, ← findItems_values (List.drop_zero (l := text.toList))]
  simp [groupMatch, valuesAt, Function.comp_def]

/-! ## The value of a placeholder -/

/-- The groups of a simple expression are its placeholders. -/
theorem groupNames_of_readItems {e : String} {limit : Nat} {c : Compiled} {items : List Item}
    (h : (Expression.simple e).compile limit = .ok c) (hitems : readItems e = .ok items) :
    c.groupNames = placeholderNames items := by
  obtain ⟨items', hitems', htree⟩ := compile_simple h
  obtain rfl := Except.ok.inj (hitems.symm.trans hitems')
  rw [Compiled.groupNames, htree, treeOf, namedGroups_treesFrom, List.map_map]
  exact List.zipIdx_map_fst 1 _

theorem exists_of_firstAt {α : Type} {f : List Char → Option α} {text : List Char} {a : α}
    (h : firstAt f text = some a) : ∃ rest, rest <:+ text ∧ f rest = some a := by
  induction text with
  | nil => exact ⟨[], List.suffix_refl [], h⟩
  | cons c text ih =>
    rcases Option.or_eq_some_iff.mp h with h | ⟨-, h⟩
    · exact ⟨c :: text, List.suffix_refl _, h⟩
    · obtain ⟨rest, hrest, h⟩ := ih h
      exact ⟨rest, hrest.trans (List.suffix_cons c text), h⟩

theorem matchValues_names {items : List Item} {rest : List Char}
    {values : List (String × String)} (h : matchValues items rest = some values) :
    values.map Prod.fst = placeholderNames items := by
  rw [← matchItems_values (List.drop_zero (l := rest))] at h
  obtain ⟨found, hfound, rfl⟩ := Option.map_eq_some_iff.mp h
  rw [← matchItems_names hfound, valuesAt, List.map_map]
  rfl

/-- Where a placeholder takes its value from. -/
theorem exists_taken {items : List Item} {rest : List Char} {values : List (String × String)}
    (h : matchValues items rest = some values) {name : String} {capture : Capture}
    (hmem : .placeholder name capture ∈ items) :
    ∃ start n, start <:+ rest ∧ n ∈ capture.lengths start ∧
      (name, String.ofList (start.take n)) ∈ values := by
  induction items generalizing rest values with
  | nil => cases hmem
  | cons item items ih =>
    obtain ⟨n, hn, h⟩ := List.exists_of_findSome?_eq_some h
    obtain ⟨values', h', rfl⟩ := Option.map_eq_some_iff.mp h
    rcases List.mem_cons.mp hmem with rfl | hmem
    · exact ⟨rest, n, List.suffix_refl rest, hn, List.mem_append_left _ List.mem_cons_self⟩
    · obtain ⟨start, k, hstart, hk, hvalue⟩ := ih h' hmem
      exact ⟨start, k, hstart.trans (List.drop_suffix n rest), hk, List.mem_append_right _ hvalue⟩

/-- The value under the name of a placeholder is taken from the text by the placeholder. -/
theorem find_taken {e : String} {limit : Nat} {c : Compiled} {items : List Item}
    (h : (Expression.simple e).compile limit = .ok c) (hitems : readItems e = .ok items)
    {name : String} {capture : Capture} (hmem : .placeholder name capture ∈ items)
    {text : String} {found : GroupMatch} (hfind : c.find text = some found) :
    ∃ start n, start <:+ text.toList ∧ n ∈ capture.lengths start ∧
      found.values.lookup name = some (String.ofList (start.take n)) := by
  have hvalues := find_values h hitems text
  rw [hfind, Option.map_some] at hvalues
  obtain ⟨values, hfirst, hfound⟩ := Option.map_eq_some_iff.mp hvalues.symm
  obtain ⟨rest, hrest, hmatch⟩ := exists_of_firstAt hfirst
  obtain ⟨start, n, hstart, hn, hvalue⟩ := exists_taken hmatch hmem
  refine ⟨start, n, hstart.trans hrest, hn, ?_⟩
  have hnodup : (values.map Prod.fst).Nodup := by
    rw [matchValues_names hmatch]
    exact (properNames_readItems hitems).1
  rw [← hfound, lookup_entriesOf, lookup_reverse hnodup]
  exact lookup_of_mem hnodup hvalue

/-! ## A text that is found -/

/-- A text that an item takes, the shortest one there is. -/
def Item.sample : Item → List Char
  | char c => [c]
  | blank => [' ']
  | anyText => []
  | anyChar | placeholder _ .word => ['a']
  | placeholder _ .int => ['0']
  | placeholder _ (.number sign) => [sign.separator]

/-- A text that items match. -/
def sampleOf (items : List Item) : List Char := items.flatMap Item.sample

theorem zero_mem_decimals (sign : DecimalSign) (rest : List Char) : 0 ∈ sign.decimals rest := by
  cases rest with
  | nil => simp [DecimalSign.decimals]
  | cons c rest =>
    rw [DecimalSign.decimals]
    split <;> simp

theorem sample_mem_lengths (item : Item) (rest : List Char) :
    item.sample.length ∈ item.lengths (item.sample ++ rest) := by
  have hone : ∀ (p : Char → Bool) (c : Char), p c = true → 1 ∈ longestFirst 1 p (c :: rest) := by
    intro p c hc
    rw [mem_longestFirst, runLength_cons_pos hc]
    omega
  cases item with
  | char c => simp [Item.sample, Item.lengths, oneChar]
  | blank => exact hone _ _ rfl
  | anyText => simp [Item.sample, Item.lengths]
  | anyChar => simp [Item.sample, Item.lengths, oneChar]
  | placeholder name capture =>
    cases capture with
    | word => exact hone _ _ (by decide +kernel)
    | int => exact hone _ _ rfl
    | number sign =>
      exact List.mem_flatMap.mpr
        ⟨1, hone _ _ (by simp), List.mem_map.mpr ⟨0, zero_mem_decimals sign _, rfl⟩⟩

theorem matchValues_sampleOf (items : List Item) : matchValues items (sampleOf items) ≠ none := by
  induction items with
  | nil => simp [matchValues]
  | cons item items ih =>
    intro hnone
    have hfail := List.findSome?_eq_none_iff.mp hnone _ (sample_mem_lengths item (sampleOf items))
    have hrest : (sampleOf (item :: items)).drop item.sample.length = sampleOf items :=
      List.drop_left
    rw [← hrest] at ih
    exact ih (Option.map_eq_none_iff.mp hfail)

/-- Every expression that compiles finds something in some text. -/
theorem find_sampleOf {e : String} {limit : Nat} {c : Compiled} {items : List Item}
    (h : (Expression.simple e).compile limit = .ok c) (hitems : readItems e = .ok items) :
    ∃ found, c.find (String.ofList (sampleOf items)) = some found := by
  have hvalues := find_values h hitems (String.ofList (sampleOf items))
  rw [← Option.isSome_iff_exists, Option.isSome_iff_ne_none]
  intro hnone
  rw [hnone, String.toList_ofList] at hvalues
  exact matchValues_sampleOf items
    (eq_none_of_firstAt (Option.map_eq_none_iff.mp hvalues.symm))

end Dossier
