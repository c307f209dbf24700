import Dossier.Proofs.Region.Kept

/-!
# Metadata among the names for field templates

Captured values and the metadata of the document share one list of names. The metadata that is set
wins over every captured value. Metadata that is not set can be forged, by a group of a regular
expression whose name begins with `document.`; placeholders of simple expressions have no such name.

* `Document.member?` : the metadata of a document by name;
* `lookup_fieldContext` : where the value of a name comes from;
* `fieldContext_metadata` : when the names that begin with `document.` are the metadata;
* `fieldContext_forged` : a captured value in place of metadata that is not set.
-/

namespace Dossier

/-! ## Metadata by name -/

/-- The metadata that a document can have, set or not. -/
def Document.members (d : Document) : List (String × Option String) :=
  [("id", some (natString d.id)), ("title", some d.title), ("correspondent", d.correspondent),
    ("document_type", d.documentType), ("storage_path", d.storagePath),
    ("date_created", d.dateCreated.map Date.isoString)]

/-- The metadata of a document under a name, if there is any and it is set. -/
def Document.member? (d : Document) (member : String) : Option String :=
  (d.members.lookup member).join

/-- The name of metadata in templates. -/
def metadataName (member : String) : String := "document." ++ member

theorem metadataName_inj {a b : String} (h : metadataName a = metadataName b) : a = b := by
  have hlists := congrArg String.toList h
  simpa [metadataName, String.toList_inj] using hlists

/-- The names of placeholders have no point. -/
theorem metadataName_ne_placeholderName {name : String}
    (h : isPlaceholderName name.toList = true) (member : String) : metadataName member ≠ name := by
  rintro rfl
  exact not_mem_of_isPlaceholderName h (c := '.') rfl (by simp [metadataName])

theorem nodup_members (d : Document) : (d.members.map Prod.fst).Nodup := by
  have hnames : d.members.map Prod.fst =
      ["id", "title", "correspondent", "document_type", "storage_path", "date_created"] := rfl
  rw [hnames]
  decide

theorem metadata_eq (d : Document) :
    d.metadata = d.members.filterMap fun m => m.2.map (metadataName m.1, ·) := rfl

theorem exists_of_mem_metadata {d : Document} {entry : String × String} (h : entry ∈ d.metadata) :
    ∃ member, entry.1 = metadataName member := by
  rw [metadata_eq] at h
  obtain ⟨m, -, hset⟩ := List.mem_filterMap.mp h
  obtain ⟨value, -, rfl⟩ := Option.map_eq_some_iff.mp hset
  exact ⟨m.1, rfl⟩

/-- Each name stands once in the metadata. -/
theorem nodup_metadata (d : Document) : (d.metadata.map Prod.fst).Nodup := by
  rw [metadata_eq, List.Nodup, List.pairwise_map]
  refine (List.pairwise_map.mp (nodup_members d)).filterMap _ fun a b hab => ?_
  intro x hx y hy heq
  obtain ⟨_, -, rfl⟩ := Option.map_eq_some_iff.mp hx
  obtain ⟨_, -, rfl⟩ := Option.map_eq_some_iff.mp hy
  exact hab (metadataName_inj heq)

/-- What is set, looked up under its name in templates. -/
theorem lookup_set_members {members : List (String × Option String)}
    (hkeys : (members.map Prod.fst).Nodup) (member : String) :
    (members.filterMap fun m => m.2.map (metadataName m.1, ·)).lookup (metadataName member) =
      (members.lookup member).join := by
  induction members with
  | nil => rfl
  | cons m members ih =>
    obtain ⟨name, value⟩ := m
    obtain ⟨hname, hrest⟩ := List.nodup_cons.mp hkeys
    by_cases h : member = name
    · subst h
      rw [List.lookup_cons_self]
      cases value with
      | none =>
        rw [List.filterMap_cons_none (by rfl), ih hrest, lookup_eq_none_of_not_mem hname]
        rfl
      | some value => exact List.lookup_cons_self
    · rw [lookup_cons_of_ne h, ← ih hrest]
      cases value with
      | none => rw [List.filterMap_cons_none (by rfl)]
      | some value => exact lookup_cons_of_ne (fun heq => h (metadataName_inj heq)) _ _

theorem lookup_metadata (d : Document) (member : String) :
    d.metadata.lookup (metadataName member) = d.member? member := by
  rw [metadata_eq, lookup_set_members (nodup_members d)]
  rfl

/-! ## Captured values and metadata -/

/-- The values in kept results, in their order. -/
def capturedIn (retained : List (Option RegionResult)) : List (String × String) :=
  retained.flatMap fun r => (r.bind RegionResult.values).getD []

theorem mem_capturedIn {retained : List (Option RegionResult)} {entry : String × String} :
    entry ∈ capturedIn retained ↔
      ∃ result, some result ∈ retained ∧ ∃ values, result.values = some values ∧
        entry ∈ values := by
  unfold capturedIn
  rw [List.mem_flatMap]
  constructor
  · rintro ⟨_ | result, hresult, hentry⟩
    · cases hentry
    · cases hvalues : result.values with
      | none => simp [hvalues] at hentry
      | some values => exact ⟨result, hresult, values, hvalues, by simpa [hvalues] using hentry⟩
  · rintro ⟨result, hresult, values, hvalues, hentry⟩
    exact ⟨some result, hresult, by simpa [hvalues] using hentry⟩

/-- The value of a name is that of the metadata, or else the last captured one. -/
theorem lookup_fieldContext (d : Document) (retained : List (Option RegionResult)) (name : String) :
    (fieldContext d retained).lookup name =
      (d.metadata.lookup name).or ((capturedIn retained).reverse.lookup name) := by
  show (entriesOf (capturedIn retained ++ d.metadata)).lookup name = _
  rw [lookup_entriesOf, List.reverse_append, List.lookup_append, lookup_reverse (nodup_metadata d)]

/-- Nothing is captured under the names of metadata with simple expressions. -/
theorem metadataName_not_mem_captured {p : Pattern} {config : Config}
    (hsimple : ∀ r ∈ p.regions, r.expression.kind = .simple) (d : Document) (member : String) :
    metadataName member ∉ (capturedIn (p.kept d config)).map Prod.fst := by
  intro hmem
  obtain ⟨entry, hentry, hname⟩ := List.mem_map.mp hmem
  obtain ⟨result, hkept, values, hvalues, hin⟩ := mem_capturedIn.mp hentry
  obtain ⟨r, hr, hresult⟩ := List.mem_map.mp hkept
  have hplaceholder := r.isPlaceholderName_of_simple (hsimple r hr)
    (List.mem_of_find?_eq_some hresult) hvalues (List.mem_map_of_mem hin)
  exact metadataName_ne_placeholderName hplaceholder member hname.symm

/-- Metadata that is set has its value whatever was captured. The names that begin with `document.`
are those of the metadata that is set, with its values, just if no kept result has a value under
another such name. With simple expressions this is always so. -/
theorem fieldContext_metadata (d : Document) (retained : List (Option RegionResult)) :
    (∀ member value, d.member? member = some value →
      (fieldContext d retained).lookup ("document." ++ member) = some value) ∧
    ((∀ member, (fieldContext d retained).lookup ("document." ++ member) = d.member? member) ↔
      ∀ result, some result ∈ retained → ∀ values, result.values = some values →
        ∀ member value, ("document." ++ member, value) ∈ values →
          (d.member? member).isSome = true) ∧
    ∀ (p : Pattern) (config : Config), (∀ r ∈ p.regions, r.expression.kind = .simple) →
      ∀ member, (fieldContext d (p.kept d config)).lookup ("document." ++ member) =
        d.member? member := by
  have hlookup : ∀ kept member, (fieldContext d kept).lookup ("document." ++ member) =
      (d.member? member).or ((capturedIn kept).reverse.lookup ("document." ++ member)) := by
    intro kept member
    rw [lookup_fieldContext, ← lookup_metadata]
    rfl
  have hnone : ∀ kept member, "document." ++ member ∉ (capturedIn kept).map Prod.fst →
      (capturedIn kept).reverse.lookup ("document." ++ member) = none := by
    intro kept member h
    exact lookup_eq_none_of_not_mem (by rwa [List.map_reverse, List.mem_reverse])
  refine ⟨fun member value hset => ?_, ⟨fun hall => ?_, fun hset member => ?_⟩, ?_⟩
  · rw [hlookup, hset, Option.some_or]
  · intro result hresult values hvalues member value hmem
    have hentry : ("document." ++ member, value) ∈ (capturedIn retained).reverse :=
      List.mem_reverse.mpr (mem_capturedIn.mpr ⟨result, hresult, values, hvalues, hmem⟩)
    cases hunset : d.member? member with
    | some value => rfl
    | none =>
      have hlost := hall member
      rw [hlookup, hunset, Option.none_or, List.lookup_eq_none_iff] at hlost
      simpa using hlost _ hentry
  · rw [hlookup]
    cases hunset : d.member? member with
    | some value => exact Option.some_or
    | none =>
      rw [Option.none_or]
      refine hnone retained member fun hmem => ?_
      obtain ⟨⟨_, value⟩, hentry, rfl⟩ := List.mem_map.mp hmem
      obtain ⟨result, hresult, values, hvalues, hin⟩ := mem_capturedIn.mp hentry
      simpa [hunset] using hset result hresult values hvalues member value hin
  · intro p config hsimple member
    rw [hlookup, hnone _ _ (metadataName_not_mem_captured hsimple d member), Option.or_none]

/-- A document without correspondent, and a group of a regular expression with the name of one. -/
theorem fieldContext_forged :
    let d : Document := { id := 1 }
    let result := extract
      ((Expression.regex "(?P<document.correspondent>ACME)").compile 1048576) "ACME"
    d.member? "correspondent" = none ∧
      (fieldContext d [some result]).lookup "document.correspondent" = some "ACME" := by
  decide +kernel

end Dossier
