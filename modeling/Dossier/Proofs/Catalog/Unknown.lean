import Dossier.Catalog
import Dossier.Proofs.Check.Tree
import Mathlib.Data.List.Basic
import Mathlib.Data.List.Induction

/-!
# Names that a catalog has not

The names of a pattern that are missing from a catalog are listed once each, in the order in which
the pattern first refers to them. When they are added to the catalog, none is missing any more, and
no other name has become known.

* `Check.RefersTo`, `Pattern.RefersTo` : the names that a condition and a pattern refer to;
* `Catalog.Has`, `Catalog.addAll` : the names of a catalog, and a catalog with more elements;
* `Pattern.mem_names` : the listed names are those that the pattern refers to;
* `mem_firstOccurrences`, `firstOccurrences_ordered` : names once each, in their order;
* `Catalog.has_addAll` : the names of a catalog with more elements;
* `unknownNames_exact` : the names that are missing.
-/

namespace Dossier

/-! ## References -/

/-- A condition refers to a name if it compares with it, or if it is made of conditions of which one
refers to the name. -/
inductive Check.RefersTo : Check → CategoryName → Prop where
  | correspondent (name : String) : RefersTo (.correspondent name) ⟨.correspondents, name⟩
  | documentType (name : String) : RefersTo (.documentType name) ⟨.documentTypes, name⟩
  | storagePath (name : String) : RefersTo (.storagePath name) ⟨.storagePaths, name⟩
  | included {includes excludes : List String} {tag : String} (h : tag ∈ includes) :
    RefersTo (.tags includes excludes) ⟨.tags, tag⟩
  | excluded {includes excludes : List String} {tag : String} (h : tag ∈ excludes) :
    RefersTo (.tags includes excludes) ⟨.tags, tag⟩
  | allOf {checks : List Check} {check : Check} {n : CategoryName} (hmem : check ∈ checks)
    (h : RefersTo check n) : RefersTo (.allOf checks) n
  | anyOf {checks : List Check} {check : Check} {n : CategoryName} (hmem : check ∈ checks)
    (h : RefersTo check n) : RefersTo (.anyOf checks) n
  | negation {check : Check} {n : CategoryName} (h : RefersTo check n) :
    RefersTo (.negation (some check)) n

/-- A pattern refers to the names of its checks and to those of its custom fields. -/
def Pattern.RefersTo (p : Pattern) (n : CategoryName) : Prop :=
  (∃ check ∈ p.checks, check.RefersTo n) ∨
    ∃ f ∈ p.fields, f.kind = .custom ∧ n = ⟨.customFields, f.name⟩

namespace Check

variable {n : CategoryName}

theorem refersTo_of_mem_ownNames {check : Check} (h : n ∈ check.ownNames) : check.RefersTo n := by
  cases check with
  | correspondent name | documentType name | storagePath name =>
    obtain rfl := List.mem_singleton.mp h
    constructor
  | tags includes excludes =>
    obtain ⟨tag, htag, rfl⟩ := List.mem_map.mp h
    rcases List.mem_append.mp htag with htag | htag
    · exact .included htag
    · exact .excluded htag
  | _ => cases h

theorem mem_ownNamesOfAll {checks : List Check} :
    n ∈ (nodesOfAll checks).flatMap ownNames ↔
      ∃ check ∈ checks, n ∈ check.nodes.flatMap ownNames := by
  rw [nodesOfAll_eq, List.flatMap_assoc, List.mem_flatMap]

/-- The names of a condition are the own names of the conditions in it. -/
theorem refersTo_iff {check : Check} : check.RefersTo n ↔ n ∈ check.nodes.flatMap ownNames := by
  constructor
  · intro h
    induction h with
    | correspondent name | documentType name | storagePath name => exact List.mem_singleton.mpr rfl
    | included h | excluded h => simp [nodes, ownNames, h]
    | allOf hmem h ih | anyOf hmem h ih =>
      rw [nodes, List.flatMap_cons]
      exact List.mem_append_right _ (mem_ownNamesOfAll.mpr ⟨_, hmem, ih⟩)
    | negation h ih =>
      rw [nodes, List.flatMap_cons]
      exact List.mem_append_right _ ih
  · intro h
    induction check using Check.induction with
    | leaf check hleaf =>
      rw [check.nodes_leaf hleaf, List.flatMap_singleton] at h
      exact refersTo_of_mem_ownNames h
    | allOf checks ih =>
      obtain ⟨check, hcheck, hn⟩ := mem_ownNamesOfAll.mp h
      exact .allOf hcheck (ih check hcheck hn)
    | anyOf checks ih =>
      obtain ⟨check, hcheck, hn⟩ := mem_ownNamesOfAll.mp h
      exact .anyOf hcheck (ih check hcheck hn)
    | unset => cases h
    | negation check ih => exact .negation (ih h)

end Check

/-- The names of a pattern are those that it refers to. -/
theorem Pattern.mem_names {p : Pattern} {n : CategoryName} : n ∈ p.names ↔ p.RefersTo n := by
  rw [names, RefersTo, List.mem_append, Check.mem_ownNamesOfAll]
  refine or_congr ?_ ?_
  · simp only [Check.refersTo_iff]
  · simp only [List.mem_map, List.mem_filter, beq_iff_eq, and_assoc, eq_comm (a := n)]

/-! ## Order and repetition -/

theorem firstOccurrences_append (names : List CategoryName) (n : CategoryName) :
    firstOccurrences (names ++ [n]) =
      if n ∈ firstOccurrences names then firstOccurrences names
      else firstOccurrences names ++ [n] := by
  simp [firstOccurrences]

theorem mem_firstOccurrences {names : List CategoryName} {n : CategoryName} :
    n ∈ firstOccurrences names ↔ n ∈ names := by
  induction names using List.reverseRecOn with
  | nil => rfl
  | append_singleton names m ih =>
    rw [firstOccurrences_append]
    split <;> grind

/-- The names are in the order in which they first occur. So no name is there twice. -/
theorem firstOccurrences_ordered (names : List CategoryName) :
    (firstOccurrences names).Pairwise fun a b => names.idxOf a < names.idxOf b := by
  induction names using List.reverseRecOn with
  | nil => exact List.Pairwise.nil
  | append_singleton names n ih =>
    -- The places of names that have occurred already are the same in the longer list.
    have hkept : (firstOccurrences names).Pairwise
        fun a b => (names ++ [n]).idxOf a < (names ++ [n]).idxOf b := by
      refine ih.imp_of_mem fun {a b} ha hb hab => ?_
      rwa [List.idxOf_append_of_mem (mem_firstOccurrences.mp ha),
        List.idxOf_append_of_mem (mem_firstOccurrences.mp hb)]
    rw [firstOccurrences_append]
    split
    · exact hkept
    · rename_i hnew
      refine List.pairwise_append.mpr ⟨hkept, List.pairwise_singleton _ _, fun a ha b hb => ?_⟩
      obtain rfl := List.mem_singleton.mp hb
      have hold := mem_firstOccurrences.mp ha
      rw [mem_firstOccurrences] at hnew
      rw [List.idxOf_append_of_mem hold, List.idxOf_append_of_notMem hnew]
      have := List.idxOf_lt_length_of_mem hold
      omega

/-- Names may be left out before or after the repetitions. -/
theorem firstOccurrences_filter (keep : CategoryName → Bool) (names : List CategoryName) :
    firstOccurrences (names.filter keep) = (firstOccurrences names).filter keep := by
  induction names using List.reverseRecOn with
  | nil => rfl
  | append_singleton names n ih =>
    rw [List.filter_append, firstOccurrences_append]
    cases hn : keep n with
    | false =>
      rw [List.filter_cons_of_neg (by simp [hn]), List.filter_nil, List.append_nil, ih]
      split
      · rfl
      · simp [hn]
    | true =>
      rw [List.filter_cons_of_pos hn, List.filter_nil, firstOccurrences_append, ih]
      simp only [List.mem_filter, hn, and_true]
      split
      · rfl
      · simp [hn]

/-! ## Names of catalogs -/

namespace Catalog

/-- A catalog has a name if an element of the category has exactly this name. -/
def Has (c : Catalog) (n : CategoryName) : Prop := ∃ e ∈ c.list n.category, e.name = n.name

theorem isNone_find? {c : Catalog} {n : CategoryName} :
    (c.find? n.category n.name).isNone = true ↔ ¬c.Has n := by
  simp [find?, Has]

/-- A catalog with more elements. -/
def addAll (c : Catalog) (added : List (Category × NamedElement)) : Catalog :=
  added.foldl (fun c a => c.add a.1 a.2) c

theorem has_add {c : Catalog} {category : Category} {e : NamedElement} {n : CategoryName} :
    (c.add category e).Has n ↔ c.Has n ∨ n = ⟨category, e.name⟩ := by
  obtain ⟨category', name⟩ := n
  cases category <;> cases category' <;> simp [add, Has, list, or_and_right, exists_or, eq_comm]

theorem has_addAll {c : Catalog} {added : List (Category × NamedElement)} {n : CategoryName} :
    (c.addAll added).Has n ↔
      c.Has n ∨ n ∈ added.map fun a => (⟨a.1, a.2.name⟩ : CategoryName) := by
  induction added generalizing c with
  | nil => simp [addAll]
  | cons a added ih =>
    rw [addAll, List.foldl_cons, ← addAll, ih, has_add, List.map_cons, List.mem_cons, or_assoc]

end Catalog

/-! ## Missing names -/

theorem unknownNames_eq (p : Pattern) (c : Catalog) :
    unknownNames p c =
      (firstOccurrences p.names).filter fun n => (c.find? n.category n.name).isNone :=
  firstOccurrences_filter _ _

/-- A name is missing if the pattern refers to it and the catalog has it not. -/
theorem mem_unknownNames {p : Pattern} {c : Catalog} {n : CategoryName} :
    n ∈ unknownNames p c ↔ p.RefersTo n ∧ ¬c.Has n := by
  rw [unknownNames_eq, List.mem_filter, mem_firstOccurrences, Pattern.mem_names,
    Catalog.isNone_find?]

/-- The missing names are those that the pattern refers to and that the catalog has not, once each,
in the order in which the pattern first refers to them. With an element for each of them, of any
number and data type and added in any order, none is missing, and the catalog has no other new
name; in particular an element changes nothing in other categories. -/
theorem unknownNames_exact (p : Pattern) (c : Catalog) :
    (∀ n, n ∈ unknownNames p c ↔ p.RefersTo n ∧ ¬c.Has n) ∧
    (unknownNames p c).Nodup ∧
    (unknownNames p c).Pairwise (fun a b => p.names.idxOf a < p.names.idxOf b) ∧
    ∀ added : List (Category × NamedElement),
      (added.map fun a => (⟨a.1, a.2.name⟩ : CategoryName)).Perm (unknownNames p c) →
        unknownNames p (c.addAll added) = [] ∧
        ∀ n, (c.addAll added).Has n ↔ c.Has n ∨ n ∈ unknownNames p c := by
  have hordered : (unknownNames p c).Pairwise fun a b => p.names.idxOf a < p.names.idxOf b := by
    rw [unknownNames_eq]
    exact (firstOccurrences_ordered p.names).filter _
  have hnodup : (unknownNames p c).Nodup := by
    refine hordered.imp fun {a b} hab heq => ?_
    exact absurd (heq ▸ hab) (Nat.lt_irrefl _)
  refine ⟨fun n => mem_unknownNames, hnodup, hordered, fun added hadded => ?_⟩
  have hhas : ∀ n, (c.addAll added).Has n ↔ c.Has n ∨ n ∈ unknownNames p c := by
    intro n
    rw [Catalog.has_addAll, hadded.mem_iff]
  refine ⟨List.eq_nil_iff_forall_not_mem.mpr fun n hn => ?_, hhas⟩
  obtain ⟨hrefers, hmissing⟩ := mem_unknownNames.mp hn
  rw [hhas, not_or] at hmissing
  exact hmissing.2 (mem_unknownNames.mpr ⟨hrefers, hmissing.1⟩)

/-- A tag that is referred to twice, below a negation, and a type of documents. The elements may be
added in the other order. -/
theorem unknownNames_exact_tax :
    let p : Pattern :=
      { name := "Invoices"
        checks := [.correspondent "ACME", .negation (some (.tags ["inbox", "tax"] ["tax"])),
          .anyOf [.documentType "Invoice"]] }
    let c : Catalog :=
      { tags := [{ id := 1, name := "inbox" }], correspondents := [{ id := 1, name := "ACME" }] }
    let added : List (Category × NamedElement) :=
      [(.documentTypes, { id := 1, name := "Invoice" }), (.tags, { id := 2, name := "tax" })]
    unknownNames p c = [⟨.tags, "tax"⟩, ⟨.documentTypes, "Invoice"⟩] ∧
      unknownNames p (c.addAll added) = [] := by
  intro p c added
  have hunknown : unknownNames p c = [⟨.tags, "tax"⟩, ⟨.documentTypes, "Invoice"⟩] := by
    decide +kernel
  have hadded : (added.map fun a => (⟨a.1, a.2.name⟩ : CategoryName)).Perm (unknownNames p c) := by
    rw [hunknown]
    exact List.Perm.swap _ _ _
  exact ⟨hunknown, ((unknownNames_exact p c).2.2.2 added hadded).1⟩

end Dossier
