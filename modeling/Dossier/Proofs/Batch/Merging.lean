import Dossier.Proofs.Batch.Classification
import Dossier.Proofs.Entries

/-!
# Merging results of documents

The results of two sets of documents are merged list by list, and for each document the names that
the first set has come before those of the second. This makes results a monoid, and classifying
documents is a homomorphism into it.

* `Tally.lookup_merge` : the names of a document in merged results;
* `Tally.merge_assoc`, `Tally.empty_merge`, `Tally.merge_empty` : the laws of a monoid;
* `Tally.addMatch_eq` and the like : to add one result is to merge with it;
* `classifyAll_append`, `classifyAll_matched_perm` : documents in two parts, and in another order;
* `classifyAll_parts` : all of it together.
-/

namespace Dossier

namespace Tally

/-! ## Merging names -/

section Names

variable {matched other : List (Nat × List String)}

theorem merge_names_assoc (a b c : Option (List String)) :
    Option.merge (· ++ ·) (Option.merge (· ++ ·) a b) c =
      Option.merge (· ++ ·) a (Option.merge (· ++ ·) b c) :=
  have h : Std.Associative (Option.merge (· ++ · : List String → List String → List String)) :=
    inferInstance
  h.assoc a b c

theorem lookup_appendNames (h : Increasing matched) (id : Nat) (names : List String) (k : Nat) :
    (appendNames id names matched).lookup k =
      Option.merge (· ++ ·) (matched.lookup k) (List.lookup k [(id, names)]) := by
  by_cases hk : k = id
  · subst hk
    rw [appendNames, h.lookup_updateEntry, List.lookup_cons_self]
    cases matched.lookup k <;> rfl
  · rw [appendNames, lookup_updateEntry_of_ne hk, lookup_cons_of_ne hk, List.lookup_nil,
      Option.merge_none_right]

theorem lookup_mergeNames (h : Increasing matched) (hother : Increasing other) (k : Nat) :
    (mergeNames matched other).lookup k =
      Option.merge (· ++ ·) (matched.lookup k) (other.lookup k) := by
  induction other generalizing matched with
  | nil => exact Option.merge_none_right.symm
  | cons m other ih =>
    obtain ⟨id, names⟩ := m
    -- A document stands once, so its names come from the front or from the rest.
    have hcons : List.lookup k ((id, names) :: other) =
        Option.merge (· ++ ·) (List.lookup k [(id, names)]) (other.lookup k) := by
      by_cases hk : k = id
      · have hnone : other.lookup k = none :=
          lookup_eq_none_of_not_mem (hk ▸ (List.nodup_cons.mp hother.nodup_keys).1)
        rw [hnone, Option.merge_none_right, hk, List.lookup_cons_self, List.lookup_cons_self]
      · rw [lookup_cons_of_ne hk, lookup_cons_of_ne hk, List.lookup_nil, Option.merge_none_left]
    have hrest := ih (increasing_appendNames h id names) hother.of_cons
    rw [hcons, ← merge_names_assoc, ← lookup_appendNames h]
    exact hrest

end Names

/-- The names of a document in merged results: those in the first results, then those in the
second. -/
theorem lookup_merge (s t : Tally) (k : Nat) :
    (s.merge t).matched.lookup k =
      Option.merge (· ++ ·) (s.matched.lookup k) (t.matched.lookup k) :=
  lookup_mergeNames s.increasing t.increasing k

/-- Results are known by their lists and the names of each document. -/
theorem eq_of_lookup {s t : Tally} (herrors : s.errors = t.errors)
    (hmatched : ∀ k, s.matched.lookup k = t.matched.lookup k)
    (hunmatched : s.unmatched = t.unmatched) : s = t := by
  have hall := s.increasing.ext t.increasing hmatched
  cases s
  cases t
  simp only at herrors hall hunmatched
  subst herrors hall hunmatched
  rfl

/-! ## The laws of a monoid -/

theorem merge_assoc (a b c : Tally) : (a.merge b).merge c = a.merge (b.merge c) := by
  refine eq_of_lookup (List.append_assoc ..) (fun k => ?_) (List.append_assoc ..)
  simp only [lookup_merge]
  exact merge_names_assoc _ _ _

theorem empty_merge (t : Tally) : ({} : Tally).merge t = t := by
  refine eq_of_lookup rfl (fun k => ?_) rfl
  rw [lookup_merge]
  exact Option.merge_none_left

theorem merge_empty (t : Tally) : t.merge {} = t :=
  eq_of_lookup (List.append_nil _) (fun _ => rfl) (List.append_nil _)

instance : Std.Associative merge := ⟨merge_assoc⟩

/-- Results that are merged one after the other can be merged among themselves first. -/
theorem foldl_merge (t : Tally) (ts : List Tally) :
    ts.foldl merge t = t.merge (ts.foldl merge {}) := by
  rw [← @List.foldl_assoc _ merge, merge_empty]

/-! ## Single results -/

theorem addError_eq (t : Tally) (label : DocumentLabel) (name error : String) :
    t.addError label name error = t.merge { errors := [⟨label, name, error⟩] } :=
  eq_of_lookup rfl (fun _ => rfl) (List.append_nil _).symm

theorem addMatch_eq (t : Tally) (id : Nat) (name : String) :
    t.addMatch id name =
      t.merge { matched := [(id, [name])], increasing := .single _ } :=
  eq_of_lookup (List.append_nil _).symm (fun _ => rfl) (List.append_nil _).symm

theorem addUnmatched_eq (t : Tally) (label : DocumentLabel) :
    t.addUnmatched label = t.merge { unmatched := [label] } :=
  eq_of_lookup (List.append_nil _).symm (fun _ => rfl) rfl

/-! ## Many results -/

theorem errors_foldl_merge (ts : List Tally) : (ts.foldl merge {}).errors = ts.flatMap errors := by
  induction ts with
  | nil => rfl
  | cons t ts ih =>
    rw [List.foldl_cons, empty_merge, foldl_merge, List.flatMap_cons, ← ih]
    rfl

theorem unmatched_foldl_merge (ts : List Tally) :
    (ts.foldl merge {}).unmatched = ts.flatMap unmatched := by
  induction ts with
  | nil => rfl
  | cons t ts ih =>
    rw [List.foldl_cons, empty_merge, foldl_merge, List.flatMap_cons, ← ih]
    rfl

theorem lookup_foldl_merge (t : Tally) (ts : List Tally) (k : Nat) :
    (ts.foldl merge t).matched.lookup k =
      ts.foldl (fun names t => Option.merge (· ++ ·) names (t.matched.lookup k))
        (t.matched.lookup k) := by
  induction ts generalizing t with
  | nil => rfl
  | cons t' ts ih => rw [List.foldl_cons, List.foldl_cons, ih, lookup_merge]

end Tally

/-! ## Classifying documents -/

section

variable {v : Evaluator} {ps : List Pattern} {ds ds₁ ds₂ : List Document}

theorem classifyAll_eq (v : Evaluator) (ps : List Pattern) (ds : List Document) :
    v.classifyAll ps ds = ((ds.filter v.accepts).map (v.classify ps)).foldl Tally.merge {} := by
  rw [List.foldl_map]
  rfl

/-- The results of documents in two parts are those of the parts, merged. -/
theorem classifyAll_append (v : Evaluator) (ps : List Pattern) (ds₁ ds₂ : List Document) :
    v.classifyAll ps (ds₁ ++ ds₂) = (v.classifyAll ps ds₁).merge (v.classifyAll ps ds₂) := by
  simp only [classifyAll_eq, List.filter_append, List.map_append, List.foldl_append]
  exact Tally.foldl_merge _ _

/-- The results of a document have names for this document only. -/
theorem lookup_classify_of_ne {d : Document} {k : Nat} (h : k ≠ d.id) :
    (v.classify ps d).matched.lookup k = none := by
  rw [classify_matched, entryOf]
  split
  · rfl
  · rw [lookup_cons_of_ne h, List.lookup_nil]

theorem classifyAll_errors_perm (h : ds₁.Perm ds₂) :
    (v.classifyAll ps ds₁).errors.Perm (v.classifyAll ps ds₂).errors := by
  simp only [classifyAll_eq, Tally.errors_foldl_merge]
  exact ((h.filter _).map _).flatMap_right _

theorem classifyAll_unmatched_perm (h : ds₁.Perm ds₂) :
    (v.classifyAll ps ds₁).unmatched.Perm (v.classifyAll ps ds₂).unmatched := by
  simp only [classifyAll_eq, Tally.unmatched_foldl_merge]
  exact ((h.filter _).map _).flatMap_right _

/-- The names of the matching patterns do not depend on the order of documents with different
numbers: two of them never add to the names of the same document. -/
theorem classifyAll_matched_perm (h : ds₁.Perm ds₂) (hids : (ds₁.map Document.id).Nodup) :
    (v.classifyAll ps ds₁).matched = (v.classifyAll ps ds₂).matched := by
  refine Increasing.ext (v.classifyAll ps ds₁).increasing (v.classifyAll ps ds₂).increasing ?_
  intro k
  rw [classifyAll_eq, classifyAll_eq, Tally.lookup_foldl_merge, Tally.lookup_foldl_merge,
    List.foldl_map, List.foldl_map]
  refine (h.filter v.accepts).foldl_eq' (fun x hx y hy names => ?_) _
  by_cases hid : x.id = y.id
  · rw [List.inj_on_of_nodup_map hids (List.mem_of_mem_filter hx) (List.mem_of_mem_filter hy) hid]
  · by_cases hk : k = x.id
    · rw [lookup_classify_of_ne (d := y) (hk ▸ hid), Option.merge_none_right,
        Option.merge_none_right]
    · rw [lookup_classify_of_ne (d := x) hk, Option.merge_none_right, Option.merge_none_right]

end

/-- Results can be put together in parts. Merging is associative, with no results on either side
nothing changes, and a single result can be added before or after merging. The results of two lists
of documents are merged to those of both, and for documents with different numbers the order of the
documents only shows in the order of the errors and of the unmatched documents. -/
theorem classifyAll_parts :
    (∀ a b c : Tally, (a.merge b).merge c = a.merge (b.merge c)) ∧
    (∀ t : Tally, ({} : Tally).merge t = t ∧ t.merge {} = t) ∧
    (∀ a b : Tally,
      (∀ id name, (a.merge b).addMatch id name = a.merge (b.addMatch id name)) ∧
      (∀ label name error, (a.merge b).addError label name error =
        a.merge (b.addError label name error)) ∧
      ∀ label, (a.merge b).addUnmatched label = a.merge (b.addUnmatched label)) ∧
    ∀ (v : Evaluator) (ps : List Pattern) (ds₁ ds₂ : List Document),
      v.classifyAll ps (ds₁ ++ ds₂) = (v.classifyAll ps ds₁).merge (v.classifyAll ps ds₂) ∧
      (ds₁.Perm ds₂ → (ds₁.map Document.id).Nodup →
        (v.classifyAll ps ds₁).matched = (v.classifyAll ps ds₂).matched ∧
        (v.classifyAll ps ds₁).errors.Perm (v.classifyAll ps ds₂).errors ∧
        (v.classifyAll ps ds₁).unmatched.Perm (v.classifyAll ps ds₂).unmatched) := by
  refine ⟨Tally.merge_assoc, fun t => ⟨t.empty_merge, t.merge_empty⟩, fun a b => ⟨?_, ?_, ?_⟩,
    fun v ps ds₁ ds₂ => ⟨classifyAll_append v ps ds₁ ds₂, fun hperm hids => ?_⟩⟩
  · intro id name
    rw [Tally.addMatch_eq, Tally.addMatch_eq, Tally.merge_assoc]
  · intro label name error
    rw [Tally.addError_eq, Tally.addError_eq, Tally.merge_assoc]
  · intro label
    rw [Tally.addUnmatched_eq, Tally.addUnmatched_eq, Tally.merge_assoc]
  · exact ⟨classifyAll_matched_perm hperm hids, classifyAll_errors_perm hperm,
      classifyAll_unmatched_perm hperm⟩

/-- Two documents in either order, one of which matches, for a pattern and a broken one. -/
theorem classifyAll_parts_swapped :
    let ps : List Pattern :=
      [{ name := "Blank", checks := [.pageCount 0] }, { name := "Broken", checks := [.title "("] }]
    let scan : Document := { id := 7, title := "Scan", pages := [{ runs := [] }] }
    let note : Document := { id := 3, title := "Note" }
    let v : Evaluator := {}
    [scan, note].Perm [note, scan] ∧ ([scan, note].map Document.id).Nodup ∧
      (v.classifyAll ps [scan, note]).matched = [(3, ["Blank"])] ∧
      (v.classifyAll ps [scan, note]).matched = (v.classifyAll ps [note, scan]).matched ∧
      (v.classifyAll ps [scan, note]).errors.Perm (v.classifyAll ps [note, scan]).errors ∧
      (v.classifyAll ps [scan, note]).unmatched.Perm (v.classifyAll ps [note, scan]).unmatched := by
  intro ps scan note v
  have hperm : [scan, note].Perm [note, scan] := .swap note scan []
  have hids : ([scan, note].map Document.id).Nodup := by decide
  exact ⟨hperm, hids, rfl, (classifyAll_parts.2.2.2 v ps _ _).2 hperm hids⟩

end Dossier
