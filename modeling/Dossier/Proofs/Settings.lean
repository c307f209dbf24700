import Dossier.Proofs.Entries
import Dossier.Proofs.Wire.Config

/-!
# Changed settings

A configuration in which one setting was changed can be used, and it is the same as before at every
way that neither leads through the setting nor to it.

* `SameApart` : trees of settings that are the same away from a way;
* `replaceAt_ok` : what replacing a value in a tree gives;
* `set_ok` : the configuration that is set.
-/

namespace Dossier.Settings

variable {c e : Config} {key name : String} {path way : List String} {value j k : Json}

/-! ## Trees -/

/-- The processing settings in the tree, with their keys in order. -/
def processingTree (p : ProcessingConfig) : Json :=
  .obj [("jobs", .ofNat p.jobs), ("required_tags", .ofList .str p.requiredTags)]

/-- The sections of the tree. -/
def sections (c : Config) : List (String × Json) :=
  [("expression", c.expression.toJson), ("layout", c.layout.toJson),
    ("processing", processingTree c.processing)]

theorem tree_eq (c : Config) : tree c = .obj (sections c) := by
  have htags : Json.uniqueElements (c.processing.requiredTags.map Json.str) =
      c.processing.requiredTags.map Json.str := by
    induction c.processing.requiredTags with
    | nil => rfl
    | cons s tags ih => rw [List.map_cons, Json.uniqueElements, ih, Json.unique]
  have hkeys : "expression" < "layout" ∧ "layout" < "processing" ∧ "expression" < "processing" ∧
      ¬"required_tags" < "jobs" := by decide
  simp [tree, sections, processingTree, Config.toJson, ExpressionConfig.toJson,
    LayoutConfig.toJson, ProcessingConfig.toJson, Json.unique, Json.uniqueMembers, putEntry,
    updateEntry, Json.ofNat, Json.ofList, htags, hkeys]

/-- The trees are the same away from a way: beside it, and beside each name on it. -/
def SameApart : List String → Json → Json → Prop
  | [], _, _ => True
  | name :: path, j, k => (∀ other, other ≠ name → j.member? other = k.member? other) ∧
      ∃ i l, j.member? name = some i ∧ k.member? name = some l ∧ SameApart path i l

/-- At a way that leads neither through the other one nor to it, the values are the same. -/
theorem SameApart.valueAt? (h : SameApart path j k) (hthrough : ¬path <+: way)
    (hto : ¬way <+: path) : valueAt? way j = valueAt? way k := by
  induction path generalizing way j k with
  | nil => exact absurd List.nil_prefix hthrough
  | cons name path ih =>
    cases way with
    | nil => exact absurd List.nil_prefix hto
    | cons other way =>
      have hcons (j : Json) : Settings.valueAt? (other :: way) j =
          (j.member? other).bind (Settings.valueAt? way) := List.foldlM_cons
      obtain ⟨hothers, i, l, hi, hl, hinner⟩ := h
      rw [hcons, hcons]
      by_cases hname : other = name
      · subst hname
        rw [hi, hl]
        exact ih hinner (fun h => hthrough (List.cons_prefix_cons.mpr ⟨rfl, h⟩))
          fun h => hto (List.cons_prefix_cons.mpr ⟨rfl, h⟩)
      · rw [hothers other hname]

/-! ## Replacing values -/

/-- The members with another value for a key. -/
def replaced (members : List (String × Json)) (name : String) (value : Json) :
    List (String × Json) := members.map fun m => if m.1 == name then (name, value) else m

theorem member?_replaced (members : List (String × Json)) (name other : String) (value : Json) :
    (Json.obj (replaced members name value)).member? other =
      if other = name then ((Json.obj members).member? other).map fun _ => value
      else (Json.obj members).member? other := by
  show (replaced members name value).reverse.lookup other = _
  rw [replaced, ← List.map_reverse]
  show _ = if other = name then (members.reverse.lookup other).map _ else members.reverse.lookup other
  induction members.reverse with
  | nil => simp
  | cons m members ih =>
    obtain ⟨k, v⟩ := m
    rw [List.map_cons, List.lookup_cons]
    by_cases hk : k = name
    · subst hk
      rw [if_pos (beq_self_eq_true k), List.lookup_cons, ih]
      by_cases hother : other = k
      · simp [hother]
      · simp [beq_eq_false_iff_ne.mpr hother, hother]
    · rw [if_neg (by simpa using hk), List.lookup_cons, ih]
      by_cases hother : other = k
      · subst hother
        simp [hk]
      · simp [beq_eq_false_iff_ne.mpr hother]

/-- With another value for the first name of a way, a tree is the same away from the way if the
values are. -/
theorem sameApart_replaced {members : List (String × Json)}
    (hj : (Json.obj members).member? name = some j) (h : SameApart path j k) :
    SameApart (name :: path) (.obj members) (.obj (replaced members name k)) := by
  refine ⟨fun other hother => ?_, j, k, hj, ?_, h⟩
  · rw [member?_replaced, if_neg hother]
  · rw [member?_replaced, if_pos rfl, hj]
    rfl

theorem replaceMember?_obj (members : List (String × Json)) (name : String) (inner : Json) :
    replaceMember? (.obj members) name inner =
      if name ∈ members.map Prod.fst then some (.obj (replaced members name inner)) else none := by
  have hany : (members.any fun m => m.1 == name) = true ↔ name ∈ members.map Prod.fst := by
    simp only [List.any_eq_true, beq_iff_eq, List.mem_map]
  simp only [replaceMember?, hany, replaced]

/-- The last name of a way is that of a member whose value is replaced. -/
theorem replaceAt_leaf (h : replaceAt key value [name] j = .ok k) :
    ∃ members, j = .obj members ∧ name ∈ members.map Prod.fst ∧
      k = .obj (replaced members name value) := by
  rw [replaceAt] at h
  cases j with
  | obj members =>
    rw [replaceMember?_obj] at h
    by_cases hname : name ∈ members.map Prod.fst
    · rw [if_pos hname] at h
      exact ⟨members, rfl, hname, (Except.ok.inj h).symm⟩
    · rw [if_neg hname] at h
      cases h
  | null | bool | int | float | str | arr => cases h

/-- At another name a value is replaced in the value of the member. -/
theorem replaceAt_inner (hpath : path ≠ []) (h : replaceAt key value (name :: path) j = .ok k) :
    ∃ members old inner, j = .obj members ∧ j.member? name = some old ∧
      replaceAt key value path old = .ok inner ∧ name ∈ members.map Prod.fst ∧
      k = .obj (replaced members name inner) := by
  cases hold : j.member? name with
  | none => simp [replaceAt, hold] at h
  | some old =>
    simp only [replaceAt, hold] at h
    obtain ⟨inner, hinner, h⟩ := Decoded.bind_eq_ok.mp h
    cases j with
    | obj members =>
      have hname : name ∈ members.map Prod.fst := by
        rw [← List.mem_reverse, ← List.map_reverse]
        exact List.mem_map_of_mem (mem_of_lookup hold)
      have hk : (replaceMember? (.obj members) name inner).getD (.obj members) = k :=
        Except.ok.inj h
      rw [replaceMember?_obj, if_pos hname] at hk
      exact ⟨members, old, inner, rfl, rfl, hinner, hname, hk.symm⟩
    | null | bool | int | float | str | arr => cases hold

/-- A value is replaced in an object that has the first name of the way: directly if this is the
last one, and else by replacing it in the value of this name. -/
theorem replaceAt_ok (h : replaceAt key value (name :: path) j = .ok k) :
    ∃ members inner, j = .obj members ∧ name ∈ members.map Prod.fst ∧
      k = .obj (replaced members name inner) ∧
      (path = [] ∧ inner = value ∨
        ∃ old, j.member? name = some old ∧ replaceAt key value path old = .ok inner) := by
  by_cases hpath : path = []
  · subst hpath
    obtain ⟨members, hj, hname, hk⟩ := replaceAt_leaf h
    exact ⟨members, value, hj, hname, hk, .inl ⟨rfl, rfl⟩⟩
  · obtain ⟨members, old, inner, hj, hold, hinner, hname, hk⟩ := replaceAt_inner hpath h
    exact ⟨members, inner, hj, hname, hk, .inr ⟨old, hold, hinner⟩⟩

/-- In an object whose values are no objects, one of these is replaced. -/
theorem replaceAt_flat {members : List (String × Json)}
    (hflat : ∀ m ∈ members, ∀ inner, m.2 ≠ .obj inner)
    (h : replaceAt key value path (.obj members) = .ok k) :
    ∃ leaf, path = [leaf] ∧ leaf ∈ members.map Prod.fst ∧ k = .obj (replaced members leaf value) := by
  cases path with
  | nil => cases h
  | cons leaf path =>
    obtain ⟨_, inner, hobj, hleaf, rfl, hinner⟩ := replaceAt_ok h
    cases hobj
    rcases hinner with ⟨rfl, rfl⟩ | ⟨old, hold, hinner⟩
    · exact ⟨leaf, rfl, hleaf, rfl⟩
    · have hmem : (leaf, old) ∈ members := List.mem_reverse.mp (mem_of_lookup hold)
      cases path with
      | nil => cases hinner
      | cons name path =>
        obtain ⟨deeper, -, hobj, -⟩ := replaceAt_ok hinner
        exact absurd hobj (hflat (leaf, old) hmem deeper)

/-! ## Sections -/

theorem ofJson_sections {x l p : Json}
    (h : Config.ofJson (.obj [("expression", x), ("layout", l), ("processing", p)]) = .ok e) :
    ExpressionConfig.ofJson x = .ok e.expression ∧ LayoutConfig.ofJson l = .ok e.layout ∧
      ProcessingConfig.ofJson p = .ok e.processing := by
  change (ExpressionConfig.ofJson x >>= fun expression => LayoutConfig.ofJson l >>= fun layout =>
    ProcessingConfig.ofJson p >>= fun processing =>
    .ok (⟨expression, layout, processing⟩ : Config)) = .ok e at h
  obtain ⟨expression, hexpression, h⟩ := Decoded.bind_eq_ok.mp h
  obtain ⟨layout, hlayout, h⟩ := Decoded.bind_eq_ok.mp h
  obtain ⟨processing, hprocessing, h⟩ := Decoded.bind_eq_ok.mp h
  cases h
  exact ⟨hexpression, hlayout, hprocessing⟩

theorem expression_sameApart {x y : ExpressionConfig}
    (h : path = [] ∨ replaceAt key value path x.toJson = .ok j) :
    SameApart path x.toJson y.toJson := by
  rcases h with rfl | h
  · trivial
  · obtain ⟨leaf, rfl, hleaf, -⟩ := replaceAt_flat (by simp [Json.ofNat]) h
    obtain rfl : leaf = "size_limit" := by simpa using hleaf
    exact sameApart_replaced (k := .ofNat y.sizeLimit) rfl trivial

theorem layout_sameApart {x y : LayoutConfig}
    (h : path = [] ∨ replaceAt key value path x.toJson = .ok j) :
    SameApart path x.toJson y.toJson := by
  rcases h with rfl | h
  · trivial
  · obtain ⟨leaf, rfl, hleaf, -⟩ := replaceAt_flat (by simp) h
    obtain rfl : leaf = "line_top_inset" := by simpa using hleaf
    exact sameApart_replaced (k := .float y.lineTopInset) rfl trivial

theorem processing_sameApart {x y : ProcessingConfig} (hjobs : x.jobs < twoTo 64)
    (h : path = [] ∨ replaceAt key value path (processingTree x) = .ok j)
    (hdecode : ProcessingConfig.ofJson j = .ok y) :
    SameApart path (processingTree x) (processingTree y) := by
  have htags : (Json.ofList .str x.requiredTags).asList Json.asString = .ok x.requiredTags :=
    Json.asList_ofList fun _ _ => rfl
  have hdecoded {u v : Json} (h : ProcessingConfig.ofJson
      (.obj [("jobs", u), ("required_tags", v)]) = .ok y) :
      u.asNat = .ok y.jobs ∧ v.asList Json.asString = .ok y.requiredTags := by
    change (u.asNat >>= fun jobs => v.asList Json.asString >>= fun requiredTags =>
      .ok (⟨requiredTags, jobs⟩ : ProcessingConfig)) = .ok y at h
    obtain ⟨jobs, hjobs, h⟩ := Decoded.bind_eq_ok.mp h
    obtain ⟨requiredTags, htags, h⟩ := Decoded.bind_eq_ok.mp h
    cases h
    exact ⟨hjobs, htags⟩
  rcases h with rfl | h
  · trivial
  · obtain ⟨leaf, rfl, hleaf, rfl⟩ := replaceAt_flat (by simp [Json.ofNat, Json.ofList]) h
    have hleaf : leaf = "jobs" ∨ leaf = "required_tags" := by simpa using hleaf
    rcases hleaf with rfl | rfl
    · have hsame : y.requiredTags = x.requiredTags :=
        Except.ok.inj ((hdecoded hdecode).2.symm.trans htags)
      rw [processingTree, processingTree, hsame]
      exact sameApart_replaced (k := .ofNat y.jobs) rfl trivial
    · have hsame : y.jobs = x.jobs :=
        Except.ok.inj ((hdecoded hdecode).1.symm.trans (Json.asNat_ofNat hjobs))
      rw [processingTree, processingTree, hsame]
      exact sameApart_replaced (k := .ofList .str y.requiredTags) rfl trivial

/-- A configuration that was decoded from the tree of another one with another value at the end of a
way is the same away from this way. -/
theorem tree_sameApart (hbounded : c.Bounded) (h : replaceAt key value path (tree c) = .ok j)
    (hdecode : Config.ofJson j = .ok e) : SameApart path (tree c) (tree e) := by
  cases path with
  | nil => cases h
  | cons name path =>
    rw [tree_eq] at h
    obtain ⟨_, inner, hobj, hname, rfl, hinner⟩ := replaceAt_ok h
    cases hobj
    have hpath {x : Json} (hx : (Json.obj (sections c)).member? name = some x) :
        path = [] ∨ replaceAt key value path x = .ok inner := by
      rcases hinner with ⟨rfl, -⟩ | ⟨old, hold, hinner⟩
      · exact .inl rfl
      · rw [hx] at hold
        cases hold
        exact .inr hinner
    have hexpression := ExpressionConfig.ofJson_toJson hbounded.sizeLimit
    have hprocessing := (ProcessingConfig.ofJson_members hbounded.jobs).2
    have hname : name = "expression" ∨ name = "layout" ∨ name = "processing" := by
      simpa [sections] using hname
    rw [tree_eq, tree_eq]
    -- The sections beside the first name are decoded as they were.
    rcases hname with rfl | rfl | rfl
    · obtain ⟨-, hl, hp⟩ := ofJson_sections hdecode
      have hlayout : e.layout = c.layout := (Except.ok.inj hl).symm
      have hprocessing : e.processing = c.processing :=
        Except.ok.inj (hp.symm.trans hprocessing)
      rw [sections, sections, hlayout, hprocessing]
      exact sameApart_replaced rfl (expression_sameApart (hpath rfl))
    · obtain ⟨hx, -, hp⟩ := ofJson_sections hdecode
      have hexpression : e.expression = c.expression :=
        Except.ok.inj (hx.symm.trans hexpression)
      have hprocessing : e.processing = c.processing :=
        Except.ok.inj (hp.symm.trans hprocessing)
      rw [sections, sections, hexpression, hprocessing]
      exact sameApart_replaced rfl (layout_sameApart (hpath rfl))
    · obtain ⟨hx, hl, hp⟩ := ofJson_sections hdecode
      have hexpression : e.expression = c.expression :=
        Except.ok.inj (hx.symm.trans hexpression)
      have hlayout : e.layout = c.layout := (Except.ok.inj hl).symm
      rw [sections, sections, hexpression, hlayout]
      exact sameApart_replaced rfl (processing_sameApart hbounded.jobs (hpath rfl) hp)

/-! ## Setting values -/

theorem load_file_ok {file : Option String} (h : load file = .ok c) : c.Bounded ∧ c.Usable := by
  cases file with
  | none =>
    cases h
    exact ⟨Config.bounded_default, Config.usable_default⟩
  | some text => exact Config.load_ok h

/-- A value that is found, and with which the configuration can be used, is set. -/
theorem set_of_replaceAt {file : Option String} (hload : load file = .ok c)
    (hreplace : replaceAt key value (keyParts key) (tree c) = .ok j)
    (hdecode : Config.ofJson j = .ok e) (husable : e.Usable) : set file key value = .ok e := by
  rw [set, hload]
  show (replaceAt key value (keyParts key) (tree c) >>= fun j =>
    (Config.ofJson j).mapError SettingFault.mistyped >>= fun c => c.checked.mapError .load) = _
  rw [hreplace]
  show ((Config.ofJson j).mapError SettingFault.mistyped >>= fun c => c.checked.mapError .load) = _
  rw [hdecode]
  show e.checked.mapError SettingFault.load = _
  rw [husable]
  rfl

/-- A configuration that is set can be used, and is the same as before away from the key. -/
theorem set_ok {file : Option String} (h : set file key value = .ok e) :
    e.Bounded ∧ e.Usable ∧
      ∃ c, load file = .ok c ∧ SameApart (keyParts key) (tree c) (tree e) := by
  obtain ⟨c, hload, h⟩ := Decoded.bind_eq_ok.mp h
  obtain ⟨j, hj, h⟩ := Decoded.bind_eq_ok.mp h
  obtain ⟨f, hdecode, h⟩ := Decoded.bind_eq_ok.mp h
  have hload := Decoded.mapError_eq_ok.mp hload
  have hdecode := Decoded.mapError_eq_ok.mp hdecode
  obtain ⟨rfl, husable⟩ := Config.checked_ok (Decoded.mapError_eq_ok.mp h)
  exact ⟨Config.bounded_of_ofJson hdecode, husable, c, hload,
    tree_sameApart (load_file_ok hload).1 hj hdecode⟩

end Dossier.Settings
