import Dossier.Proofs.Number.Order
import Dossier.Proofs.Wire.Written
import Dossier.Settings

/-!
# Configurations that are written again

A configuration that can be used, and whose whole numbers have 64 bits, is loaded from its text.

* `Config.Bounded` : whole numbers of 64 bits, as in every configuration that is decoded;
* `Config.load_text` : a configuration is loaded from its text.
-/

namespace Dossier

namespace Config

/-- The whole numbers of a configuration have 64 bits. -/
structure Bounded (c : Config) : Prop where
  sizeLimit : c.expression.sizeLimit < twoTo 64
  jobs : c.processing.jobs < twoTo 64

theorem bounded_default : Bounded {} := ⟨by decide, by decide⟩

end Config

theorem ExpressionConfig.lt_of_ofJson {j : Json} {c : ExpressionConfig} (h : ofJson j = .ok c) :
    c.sizeLimit < twoTo 64 := by
  obtain ⟨r, -, h⟩ := Decoded.bind_eq_ok.mp h
  obtain ⟨sizeLimit, hlimit, h⟩ := Decoded.bind_eq_ok.mp h
  obtain ⟨_, -, h⟩ := Decoded.bind_eq_ok.mp h
  cases h
  rcases Record.fieldOr_ok hlimit with rfl | ⟨v, -, hv⟩
  · decide
  · exact (Json.asNat_ok hv).2

theorem ProcessingConfig.lt_of_ofJson {j : Json} {c : ProcessingConfig} (h : ofJson j = .ok c) :
    c.jobs < twoTo 64 := by
  obtain ⟨r, -, h⟩ := Decoded.bind_eq_ok.mp h
  have hlt {jobs : Nat}
      (hjobs : r.fieldOr 1 "jobs" ({} : ProcessingConfig).jobs Json.asNat = .ok jobs) :
      jobs < twoTo 64 := by
    rcases Record.fieldOr_ok hjobs with rfl | ⟨v, -, hv⟩
    · decide
    · exact (Json.asNat_ok hv).2
  cases r with
  | members ms =>
    obtain ⟨jobs, hjobs, h⟩ := Decoded.bind_eq_ok.mp h
    obtain ⟨tags, -, h⟩ := Decoded.bind_eq_ok.mp h
    cases h
    exact hlt hjobs
  | elements es =>
    obtain ⟨tags, -, h⟩ := Decoded.bind_eq_ok.mp h
    obtain ⟨jobs, hjobs, h⟩ := Decoded.bind_eq_ok.mp h
    obtain ⟨_, -, h⟩ := Decoded.bind_eq_ok.mp h
    cases h
    exact hlt hjobs

theorem ExpressionConfig.ofJson_toJson {c : ExpressionConfig} (h : c.sizeLimit < twoTo 64) :
    ofJson c.toJson = .ok c := by
  show (Json.asNat (.ofNat c.sizeLimit) >>= fun sizeLimit =>
    .ok (⟨sizeLimit⟩ : ExpressionConfig)) = _
  rw [Json.asNat_ofNat h]
  rfl

theorem LayoutConfig.ofJson_toJson (c : LayoutConfig) : ofJson c.toJson = .ok c := rfl

/-- The order of the members does not matter. -/
theorem ProcessingConfig.ofJson_members {c : ProcessingConfig} (h : c.jobs < twoTo 64) :
    ofJson (.obj [("required_tags", .ofList .str c.requiredTags), ("jobs", .ofNat c.jobs)]) =
        .ok c ∧
      ofJson (.obj [("jobs", .ofNat c.jobs), ("required_tags", .ofList .str c.requiredTags)]) =
        .ok c := by
  have htags : (Json.ofList .str c.requiredTags).asList Json.asString = .ok c.requiredTags :=
    Json.asList_ofList fun _ _ => rfl
  have hsteps : (Json.asNat (.ofNat c.jobs) >>= fun jobs =>
      (Json.ofList .str c.requiredTags).asList Json.asString >>= fun requiredTags =>
      .ok (⟨requiredTags, jobs⟩ : ProcessingConfig)) = .ok c := by
    rw [Json.asNat_ofNat h, htags]
    rfl
  exact ⟨hsteps, hsteps⟩

namespace Config

variable {c : Config}

theorem bounded_of_ofJson {j : Json} (h : ofJson j = .ok c) : c.Bounded := by
  obtain ⟨r, -, h⟩ := Decoded.bind_eq_ok.mp h
  obtain ⟨expression, hexpression, h⟩ := Decoded.bind_eq_ok.mp h
  obtain ⟨layout, -, h⟩ := Decoded.bind_eq_ok.mp h
  obtain ⟨processing, hprocessing, h⟩ := Decoded.bind_eq_ok.mp h
  obtain ⟨_, -, h⟩ := Decoded.bind_eq_ok.mp h
  cases h
  constructor
  · rcases Record.fieldOr_ok hexpression with rfl | ⟨v, -, hv⟩
    · exact bounded_default.sizeLimit
    · exact ExpressionConfig.lt_of_ofJson hv
  · rcases Record.fieldOr_ok hprocessing with rfl | ⟨v, -, hv⟩
    · exact bounded_default.jobs
    · exact ProcessingConfig.lt_of_ofJson hv

theorem ofJson_toJson (h : c.Bounded) : ofJson c.toJson = .ok c := by
  show (ExpressionConfig.ofJson c.expression.toJson >>= fun expression =>
    LayoutConfig.ofJson c.layout.toJson >>= fun layout =>
    ProcessingConfig.ofJson c.processing.toJson >>= fun processing =>
    .ok (⟨expression, layout, processing⟩ : Config)) = _
  rw [ExpressionConfig.ofJson_toJson h.sizeLimit, LayoutConfig.ofJson_toJson,
    ProcessingConfig.toJson, (ProcessingConfig.ofJson_members h.jobs).1]
  rfl

/-! ## Loading -/

/-- The configuration can be used. -/
def Usable (c : Config) : Prop := c.checked = .ok c

theorem Usable.check_ok (h : c.Usable) : c.check = .ok () := by
  unfold Usable checked at h
  split at h
  · assumption
  · cases h

theorem usable_iff : c.Usable ↔
    (0 ≤ c.layout.lineTopInset ∧ c.layout.lineTopInset < 1) ∧ c.processing.jobs ≠ 0 := by
  have hcheck : c.check = .ok () ↔
      (0 ≤ c.layout.lineTopInset ∧ c.layout.lineTopInset < 1) ∧ c.processing.jobs ≠ 0 := by
    have hrange :
        (!(decide (0 ≤ c.layout.lineTopInset) && decide (c.layout.lineTopInset < 1))) = true ↔
          ¬(0 ≤ c.layout.lineTopInset ∧ c.layout.lineTopInset < 1) := by
      rw [← Bool.decide_and, Bool.not_eq_true', decide_eq_false_iff_not]
    simp only [check, hrange]
    split_ifs with hinset hjobs
    · exact ⟨(nomatch ·), fun h => absurd hjobs h.2⟩
    · exact ⟨fun _ => ⟨hinset, hjobs⟩, fun _ => rfl⟩
    · exact ⟨(nomatch ·), fun h => absurd h.1 hinset⟩
  refine ⟨fun h => hcheck.mp h.check_ok, fun h => ?_⟩
  rw [Usable, checked, hcheck.mpr h]

theorem usable_default : Usable {} := usable_iff.mpr (by decide +kernel)

theorem Usable.isFinite (h : c.Usable) : c.layout.lineTopInset.isFinite = true := by
  obtain ⟨⟨hlow, hhigh⟩, -⟩ := usable_iff.mp h
  exact isFinite_of_between (by decide +kernel) (by decide +kernel) hlow hhigh

theorem checked_ok {e : Config} (h : c.checked = .ok e) : e = c ∧ c.Usable := by
  have hsame : e = c := by
    unfold checked at h
    split at h
    · exact (Except.ok.inj h).symm
    · cases h
  exact ⟨hsame, hsame ▸ h⟩

theorem load_ok {text : String} (h : load text = .ok c) : c.Bounded ∧ c.Usable := by
  obtain ⟨e, hread, h⟩ := Decoded.bind_eq_ok.mp h
  obtain ⟨rfl, husable⟩ := checked_ok h
  obtain ⟨j, -, hj⟩ := readAs_ok hread
  exact ⟨bounded_of_ofJson hj, husable⟩

/-- A configuration is loaded from its text if its inset is read from its own text. -/
theorem load_text (h : c.Bounded) (husable : c.Usable)
    (hinset : Json.ReadsBack c.layout.lineTopInset) : load (Settings.text c) = .ok c := by
  have hlimit := h.sizeLimit
  have hjobs := h.jobs
  have htags : (Json.ofList .str c.processing.requiredTags).Within Json.ReadsBack := by
    refine Json.withinAll_iff.mpr fun j hj => ?_
    obtain ⟨s, -, rfl⟩ := List.mem_map.mp hj
    trivial
  have hwithin : c.toJson.Within Json.ReadsBack :=
    ⟨⟨⟨by omega, by omega⟩, trivial⟩, ⟨hinset, trivial⟩, ⟨htags, ⟨by omega, by omega⟩, trivial⟩,
      trivial⟩
  have hlist : (Json.ofList .str c.processing.requiredTags).depth < 2 :=
    Json.depth_ofList_lt fun _ _ => Nat.succ_pos _
  have hdepth : c.toJson.depth < 4 := by
    refine Json.depth_obj_lt.mpr ?_
    have hprocessing : c.processing.toJson.depth < 3 :=
      Json.depth_obj_lt.mpr (List.forall_mem_cons.mpr ⟨hlist,
        List.forall_mem_singleton.mpr (show 0 < 2 from Nat.two_pos)⟩)
    simp [hprocessing, ExpressionConfig.toJson, LayoutConfig.toJson, Json.depth,
      Json.depthOfMembers, Json.ofNat]
  have hread : readAs ofJson (Settings.text c) = .ok c :=
    readAs_of_read? ((Json.read?_pretty hwithin).trans (if_pos (Nat.lt_trans hdepth (by decide))))
      (ofJson_toJson h)
  rw [load, hread]
  exact husable

end Config

end Dossier
