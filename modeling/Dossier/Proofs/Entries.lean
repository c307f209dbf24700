import Dossier.Entries
import Mathlib.Data.List.Nodup

/-!
# Look-ups of keyed entries

Entries in the order of their keys are known by the values at their keys.

* `Increasing.lookup_updateEntry`, `lookup_updateEntry_of_ne` : the values after a change;
* `entriesOf_map` : changing every value keeps the order;
* `lookup_entriesOf` : of keyed values in any order the last one at a key counts;
* `entriesOf_perm` : keyed values whose keys differ are all kept;
* `Increasing.ext` : entries with the same values at all keys are equal;
* `Increasing.entriesOf_perm` : entries in order are made of themselves in any order.
-/

namespace Dossier

section Pairs

variable {κ α : Type} [DecidableEq κ] {entries : List (κ × α)} {k : κ}

theorem lookup_cons_of_ne {key : κ} (h : k ≠ key) (a : α) (entries : List (κ × α)) :
    ((key, a) :: entries).lookup k = entries.lookup k := by
  rw [List.lookup_cons, beq_eq_false_iff_ne.mpr h]

theorem lookup_eq_none_of_not_mem (h : k ∉ entries.map Prod.fst) : entries.lookup k = none := by
  refine List.lookup_eq_none_iff.mpr fun p hp => ?_
  have hne : k ≠ p.1 := fun heq => h (heq ▸ List.mem_map_of_mem hp)
  simpa using hne

theorem mem_of_lookup {a : α} (h : entries.lookup k = some a) : (k, a) ∈ entries := by
  obtain ⟨before, after, rfl, -⟩ := List.lookup_eq_some_iff.mp h
  simp

theorem isSome_lookup : (entries.lookup k).isSome = true ↔ k ∈ entries.map Prod.fst := by
  constructor
  · intro h
    obtain ⟨a, ha⟩ := Option.isSome_iff_exists.mp h
    exact List.mem_map_of_mem (mem_of_lookup ha)
  · intro h
    by_contra hnone
    obtain ⟨p, hp, rfl⟩ := List.mem_map.mp h
    simpa using List.lookup_eq_none_iff.mp (Option.not_isSome_iff_eq_none.mp hnone) p hp

/-- An entry whose key stands once is found at its key. -/
theorem lookup_of_mem {a : α} (hkeys : (entries.map Prod.fst).Nodup) (h : (k, a) ∈ entries) :
    entries.lookup k = some a := by
  obtain ⟨before, after, rfl⟩ := List.append_of_mem h
  rw [List.map_append, List.nodup_append] at hkeys
  refine List.lookup_eq_some_iff.mpr ⟨before, after, rfl, fun p hp => ?_⟩
  have hne := hkeys.2.2 p.1 (List.mem_map_of_mem hp) k (by simp)
  simpa using hne.symm

/-- If each key stands once, the order of the entries does not matter. -/
theorem lookup_perm (hkeys : (entries.map Prod.fst).Nodup) {entries' : List (κ × α)}
    (h : entries'.Perm entries) (k : κ) : entries'.lookup k = entries.lookup k := by
  cases hk : entries.lookup k with
  | none =>
    rw [List.lookup_eq_none_iff] at hk ⊢
    exact fun p hp => hk p (h.mem_iff.mp hp)
  | some a =>
    have hkeys' : (entries'.map Prod.fst).Nodup := (h.map Prod.fst).nodup_iff.mpr hkeys
    exact lookup_of_mem hkeys' (h.mem_iff.mpr (mem_of_lookup hk))

theorem lookup_reverse (hkeys : (entries.map Prod.fst).Nodup) (k : κ) :
    entries.reverse.lookup k = entries.lookup k := lookup_perm hkeys entries.reverse_perm k

end Pairs

variable {κ α : Type} [LT κ]

section Order

variable [LE κ] [Std.LawfulOrderLT κ] {entries entries' : List (κ × α)}

theorem Increasing.nodup_keys (h : Increasing entries) : (entries.map Prod.fst).Nodup := by
  unfold Increasing at h
  exact List.pairwise_map.mpr (h.imp Std.ne_of_lt)

/-- Entries in order are known by the values at their keys. -/
theorem Increasing.ext [DecidableEq κ] [Std.IsLinearOrder κ] (h : Increasing entries)
    (h' : Increasing entries') (heq : ∀ k, entries.lookup k = entries'.lookup k) :
    entries = entries' := by
  refine List.Perm.eq_of_pairwise (fun a b _ _ hab hba => ?_) h h' ?_
  · exact absurd (Std.lt_trans hab hba) Std.lt_irrefl
  · refine (List.perm_ext_iff_of_nodup h.nodup_keys.of_map h'.nodup_keys.of_map).mpr fun p => ?_
    constructor
    · exact fun hp => mem_of_lookup ((heq p.1).symm.trans (lookup_of_mem h.nodup_keys hp))
    · exact fun hp => mem_of_lookup ((heq p.1).trans (lookup_of_mem h'.nodup_keys hp))

end Order

/-! ## Changes -/

variable [DecidableLT κ] [DecidableEq κ]

/-- A change at one key leaves the values at the others. -/
theorem lookup_updateEntry_of_ne {key k : κ} (h : k ≠ key) (change : Option α → α)
    (entries : List (κ × α)) : (updateEntry key change entries).lookup k = entries.lookup k := by
  fun_induction updateEntry key change entries with
  | case1 => exact lookup_cons_of_ne h _ _
  | case2 k' a rest => exact lookup_cons_of_ne h _ _
  | case3 a rest => rw [lookup_cons_of_ne h, lookup_cons_of_ne h]
  | case4 k' a rest _ _ ih => rw [List.lookup_cons, List.lookup_cons, ih]

/-- A change of every value can be made before or after the entries are put in order. -/
theorem entriesOf_map {β : Type} (f : α → β) (pairs : List (κ × α)) :
    entriesOf (pairs.map fun p => (p.1, f p.2)) = (entriesOf pairs).map fun p => (p.1, f p.2) := by
  have hput : ∀ (key : κ) (value : α) (entries : List (κ × α)),
      putEntry key (f value) (entries.map fun p => (p.1, f p.2)) =
        (putEntry key value entries).map fun p => (p.1, f p.2) := by
    intro key value entries
    unfold putEntry
    induction entries with
    | nil => rfl
    | cons p entries ih =>
      rw [List.map_cons, updateEntry, updateEntry]
      split
      · rfl
      · split
        · rfl
        · rw [ih, List.map_cons]
  have hall : ∀ entries : List (κ × α),
      (pairs.map fun p => (p.1, f p.2)).foldl (fun entries p => putEntry p.1 p.2 entries)
          (entries.map fun p => (p.1, f p.2)) =
        (pairs.foldl (fun entries p => putEntry p.1 p.2 entries) entries).map
          fun p => (p.1, f p.2) := by
    induction pairs with
    | nil => exact fun _ => rfl
    | cons p pairs ih =>
      intro entries
      rw [List.map_cons, List.foldl_cons, List.foldl_cons, hput, ih]
  exact hall []

variable [LE κ] [Std.IsLinearOrder κ] [Std.LawfulOrderLT κ]

/-- A change at a key is given the value that was there. -/
theorem Increasing.lookup_updateEntry {entries : List (κ × α)} (h : Increasing entries) (key : κ)
    (change : Option α → α) :
    (Dossier.updateEntry key change entries).lookup key = some (change (entries.lookup key)) := by
  fun_induction Dossier.updateEntry key change entries with
  | case1 => exact List.lookup_cons_self
  | case2 k a rest hlt =>
    -- The key stands in front of all others, so it is not among them.
    have hnone : List.lookup key ((k, a) :: rest) = none := by
      refine lookup_eq_none_of_not_mem fun hmem => ?_
      have hfront : Increasing ((key, a) :: (k, a) :: rest) := by
        refine .cons (fun p hp => ?_) h
        rcases List.mem_cons.mp hp with rfl | hp
        · exact hlt
        · exact Std.lt_trans hlt (List.rel_of_pairwise_cons h hp)
      exact (List.nodup_cons.mp hfront.nodup_keys).1 hmem
    rw [hnone, List.lookup_cons_self]
  | case3 a rest => rw [List.lookup_cons_self, List.lookup_cons_self]
  | case4 k a rest _ hne ih =>
    rw [lookup_cons_of_ne hne, lookup_cons_of_ne hne]
    exact ih h.of_cons

/-- Of keyed values in any order the last one at a key counts. -/
theorem lookup_entriesOf (pairs : List (κ × α)) (k : κ) :
    (entriesOf pairs).lookup k = pairs.reverse.lookup k := by
  have h : ∀ entries, Increasing entries →
      (pairs.foldl (fun entries p => putEntry p.1 p.2 entries) entries).lookup k =
        (pairs.reverse.lookup k).or (entries.lookup k) := by
    induction pairs with
    | nil => exact fun _ _ => rfl
    | cons p pairs ih =>
      intro entries hentries
      have hp : (putEntry p.1 p.2 entries).lookup k =
          (List.lookup k [p]).or (entries.lookup k) := by
        by_cases hk : k = p.1
        · subst hk
          rw [putEntry, hentries.lookup_updateEntry, List.lookup_cons_self]
          rfl
        · rw [putEntry, lookup_updateEntry_of_ne hk, lookup_cons_of_ne hk]
          rfl
      rw [List.foldl_cons, ih _ (hentries.putEntry _ _), List.reverse_cons, List.lookup_append,
        Option.or_assoc, hp]
  rw [entriesOf, h [] .nil]
  simp

/-- What is in the entries was among the keyed values. -/
theorem mem_of_mem_entriesOf {pairs : List (κ × α)} {p : κ × α} (h : p ∈ entriesOf pairs) :
    p ∈ pairs := by
  have hlookup := lookup_of_mem (increasing_entriesOf pairs).nodup_keys h
  rw [lookup_entriesOf] at hlookup
  exact List.mem_reverse.mp (mem_of_lookup hlookup)

/-- Keyed values whose keys differ are all kept. -/
theorem entriesOf_perm {pairs : List (κ × α)} (hkeys : (pairs.map Prod.fst).Nodup) :
    (entriesOf pairs).Perm pairs := by
  have hnodup := (increasing_entriesOf pairs).nodup_keys
  refine (List.perm_ext_iff_of_nodup hnodup.of_map hkeys.of_map).mpr fun p => ?_
  refine ⟨mem_of_mem_entriesOf, fun hp => mem_of_lookup (k := p.1) (a := p.2) ?_⟩
  rw [lookup_entriesOf, lookup_reverse hkeys]
  exact lookup_of_mem hkeys hp

/-- Entries in order are made of themselves, whatever the order in which they come. -/
theorem Increasing.entriesOf_perm {entries pairs : List (κ × α)} (h : Increasing entries)
    (hperm : pairs.Perm entries) : entriesOf pairs = entries :=
  (increasing_entriesOf pairs).ext h fun k => by
    rw [lookup_entriesOf, lookup_perm h.nodup_keys (pairs.reverse_perm.trans hperm)]

theorem Increasing.entriesOf_eq {entries : List (κ × α)} (h : Increasing entries) :
    entriesOf entries = entries := h.entriesOf_perm (.refl _)

end Dossier
