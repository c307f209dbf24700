/-!
# Keyed entries in order

Entries are values with keys, each key once, in the increasing order of their keys.

* `Increasing` : the order of the keys;
* `putEntry` : puts a value at a key;
* `updateEntry` : changes the value at a key, which may be missing so far;
* `increasing_entriesOf` : what is made of keyed values in any order has its keys in order.
-/

namespace Dossier

variable {κ α : Type} [LT κ]

/-- The keys stand in increasing order, each once. -/
def Increasing (entries : List (κ × α)) : Prop := entries.Pairwise fun a b => a.1 < b.1

theorem Increasing.nil : Increasing ([] : List (κ × α)) := List.Pairwise.nil

theorem Increasing.single (p : κ × α) : Increasing [p] := List.pairwise_singleton _ p

variable [DecidableLT κ] [DecidableEq κ]

/-- Changes the value at a key; the function is given the value so far, if there is one. -/
def updateEntry (key : κ) (change : Option α → α) : List (κ × α) → List (κ × α)
  | [] => [(key, change none)]
  | (k, a) :: rest =>
    if key < k then (key, change none) :: (k, a) :: rest
    else if key = k then (key, change (some a)) :: rest
    else (k, a) :: updateEntry key change rest

/-- Puts a value at a key, in place of the value so far. -/
def putEntry (key : κ) (value : α) (entries : List (κ × α)) : List (κ × α) :=
  updateEntry key (fun _ => value) entries

/-- The entries of keyed values in any order; of a repeated key the last value counts. -/
def entriesOf (pairs : List (κ × α)) : List (κ × α) :=
  pairs.foldl (fun entries p => putEntry p.1 p.2 entries) []

/-! ## The order of the keys -/

/-- An entry that is there after a change has the key of the change or was there before. -/
theorem eq_or_mem_of_mem_updateEntry {key : κ} {change : Option α → α} {entries : List (κ × α)}
    {p : κ × α} (h : p ∈ updateEntry key change entries) : p.1 = key ∨ p ∈ entries := by
  fun_induction updateEntry key change entries with
  | case1 => exact .inl (by simp_all)
  | case2 | case3 =>
    rcases List.mem_cons.mp h with rfl | h
    · exact .inl rfl
    · exact .inr (by simp_all)
  | case4 k a rest _ _ ih =>
    rcases List.mem_cons.mp h with rfl | h
    · exact .inr List.mem_cons_self
    · exact (ih h).imp_right (List.mem_cons_of_mem _)

variable [LE κ] [Std.IsLinearOrder κ] [Std.LawfulOrderLT κ]

theorem Increasing.updateEntry {entries : List (κ × α)} (h : Increasing entries) (key : κ)
    (change : Option α → α) : Increasing (updateEntry key change entries) := by
  fun_induction Dossier.updateEntry key change entries with
  | case1 => exact .single _
  | case2 k a rest hlt =>
    refine .cons (fun p hp => ?_) h
    rcases List.mem_cons.mp hp with rfl | hp
    · exact hlt
    · exact Std.lt_trans hlt (List.rel_of_pairwise_cons h hp)
  | case3 a rest => exact .cons (fun p hp => List.rel_of_pairwise_cons h hp) h.of_cons
  | case4 k a rest hlt hne ih =>
    refine .cons (fun p hp => ?_) (ih h.of_cons)
    rcases eq_or_mem_of_mem_updateEntry hp with hp | hp
    · show k < p.1
      rw [hp]
      exact ((Std.lt_trichotomy key k).resolve_left hlt).resolve_left hne
    · exact List.rel_of_pairwise_cons h hp

theorem Increasing.putEntry {entries : List (κ × α)} (h : Increasing entries) (key : κ)
    (value : α) : Increasing (putEntry key value entries) := h.updateEntry key _

theorem increasing_entriesOf (pairs : List (κ × α)) : Increasing (entriesOf pairs) := by
  have h : ∀ entries, Increasing entries →
      Increasing (pairs.foldl (fun entries p => putEntry p.1 p.2 entries) entries) := by
    induction pairs with
    | nil => exact fun _ h => h
    | cons p pairs ih => exact fun entries h => ih _ (h.putEntry _ _)
  exact h [] .nil

end Dossier
