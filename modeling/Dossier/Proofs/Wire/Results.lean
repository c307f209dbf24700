import Dossier.Proofs.Wire.Document
import Dossier.Wire.Results

/-!
# Results that are written again

All that is decoded as a result is written so that it is decoded again, although every type leaves
out, defaults and nulls its fields by rules of its own. There are no numbers with a point in results.

* `RegionResult.saves`, `CheckResult.saves`, `FieldResult.saves`, `Evaluation.saves`, `Tally.saves` :
  results of all types;
* `documents_and_results_survive` : documents and results that were read from texts.
-/

namespace Dossier

variable {bound : Nat}

/-! ## Keyed values and places -/

namespace Json

theorem ofValues_ne_null (values : List (String × String)) : ofValues values ≠ null :=
  Json.noConfusion

/-- Values with names are written in the order of the names. -/
theorem ofValues_saves : Saves (asEntries asString) ofValues 0 := by
  intro j values bound hj h
  cases j with
  | obj ms =>
    obtain ⟨b, rfl, -⟩ := Record.fits_of hj rfl
    obtain ⟨pairs, -, rfl⟩ := Decoded.map_eq_ok.mp h
    have hvalues : ((entriesOf pairs).map fun v => (v.1, str v.2)).mapM
        (fun m => (asString m.2).map fun a => (m.1, a)) = .ok (entriesOf pairs) :=
      Decoded.mapM_map fun _ _ => rfl
    refine ⟨Decoded.map_eq_ok.mpr ⟨_, hvalues, (increasing_entriesOf pairs).entriesOf_eq⟩, ?_⟩
    exact fits_obj.mpr (List.forall_mem_map.mpr fun v _ => fits_str v.2)
  | null | bool | int | float | str | arr => cases h

theorem ofPlace_saves : Saves asPlace ofPlace 0 := by
  intro j place bound hj h
  unfold asPlace at h
  split at h
  · rename_i u v
    obtain ⟨b, rfl, hfits⟩ := Record.fits_of hj (r := .elements [u, v]) rfl
    obtain ⟨start, hstart, h⟩ := Decoded.bind_eq_ok.mp h
    obtain ⟨finish, hfinish, h⟩ := Decoded.bind_eq_ok.mp h
    cases h
    have hstart := asNat_saves u start _ (hfits u (by simp [Record.values])) hstart
    have hfinish := asNat_saves v finish _ (hfits v (by simp [Record.values])) hfinish
    refine ⟨?_, fits_arr.mpr ?_⟩
    · show (asNat (ofNat start) >>= fun start => asNat (ofNat finish) >>= fun finish =>
        .ok (start, finish)) = _
      rw [hstart.again, hfinish.again]
      rfl
    · simp [hstart.fits, hfinish.fits]
  · cases h
  · cases h

end Json

/-! ## Results of regions and fields -/

theorem RegionResult.saves : Saves ofJson toJson 0 := by
  intro j result bound hj h
  obtain ⟨r, hr, h⟩ := Decoded.bind_eq_ok.mp h
  obtain ⟨text, -, h⟩ := Decoded.bind_eq_ok.mp h
  obtain ⟨values, hvalues, h⟩ := Decoded.bind_eq_ok.mp h
  obtain ⟨positions, hpositions, h⟩ := Decoded.bind_eq_ok.mp h
  obtain ⟨error, herror, h⟩ := Decoded.bind_eq_ok.mp h
  obtain ⟨isRetained, -, h⟩ := Decoded.bind_eq_ok.mp h
  obtain ⟨_, -, h⟩ := Decoded.bind_eq_ok.mp h
  cases h
  obtain ⟨b, rfl, hfits⟩ := Record.fits_of hj hr
  have hvalues := Json.optional_saved hfits Json.ofValues_saves Json.ofValues_ne_null hvalues
  have hpositions := Json.optional_saved hfits (Json.asList_saves Json.ofPlace_saves)
    (fun _ => Json.noConfusion) hpositions
  have herror := Json.optional_saved hfits Json.asString_saves (fun _ => Json.noConfusion) herror
  refine ⟨?_, Json.fits_obj.mpr ?_⟩
  · show ((Json.ofOption Json.ofValues values).asOption (Json.asEntries Json.asString) >>=
      fun values => (Json.ofOption (Json.ofList Json.ofPlace) positions).asOption
        (Json.asList Json.asPlace) >>=
      fun positions => (Json.ofOption Json.str error).asOption Json.asString >>= fun error =>
      .ok (⟨text, values, positions, error, isRetained⟩ : RegionResult)) = _
    rw [hvalues.again, hpositions.again, herror.again]
    rfl
  · simp [Json.fits_str, Json.fits_bool, hvalues.fits, hpositions.fits, herror.fits,
      Json.ofOptionString]

theorem FieldResult.saves : Saves ofJson toJson 0 := by
  intro j result bound hj h
  obtain ⟨r, hr, h⟩ := Decoded.bind_eq_ok.mp h
  obtain ⟨dataType, htype, h⟩ := Decoded.bind_eq_ok.mp h
  obtain ⟨value, hvalue, h⟩ := Decoded.bind_eq_ok.mp h
  obtain ⟨error, herror, h⟩ := Decoded.bind_eq_ok.mp h
  obtain ⟨_, -, h⟩ := Decoded.bind_eq_ok.mp h
  cases h
  obtain ⟨b, rfl, hfits⟩ := Record.fits_of hj hr
  have hnull (s : String) : Json.str s ≠ .null := Json.noConfusion
  have htype := Record.fieldOr_saved hfits (Json.asOption_saves Json.asString_saves hnull)
    ⟨rfl, Json.fits_null⟩ htype
  have hvalue := Json.optional_saved hfits Json.asString_saves hnull hvalue
  have herror := Json.optional_saved hfits Json.asString_saves hnull herror
  refine ⟨?_, Json.fits_obj.mpr ?_⟩
  · show ((Json.ofOption Json.str dataType).asOption Json.asString >>= fun dataType =>
      (Json.ofOption Json.str value).asOption Json.asString >>= fun value =>
      (Json.ofOption Json.str error).asOption Json.asString >>= fun error =>
      .ok (⟨dataType, value, error⟩ : FieldResult)) = _
    rw [htype.again, hvalue.again, herror.again]
    rfl
  · simp [htype.fits, hvalue.fits, herror.fits, Json.ofOptionString]

/-! ## Verdicts -/

namespace CheckResult

/-- Induction over a verdict and the verdicts in it. -/
@[elab_as_elim]
theorem induction {motive : CheckResult → Prop}
    (mk : ∀ passed error children, (∀ r ∈ children, motive r) →
      motive (.mk passed error children)) : ∀ r, motive r
  | .mk passed error children => mk passed error children fun r _ => induction mk r
termination_by r => sizeOf r
decreasing_by
  have := List.sizeOf_lt_of_mem ‹_ ∈ children›
  simp only [CheckResult.mk.sizeOf_spec]
  omega

theorem toJsonAll_eq (results : List CheckResult) : toJsonAll results = results.map toJson := by
  induction results with
  | nil => rfl
  | cons r results ih => rw [toJsonAll, List.map_cons, ih]

variable {passed : Bool} {error : Option String} {children : List CheckResult}

/-- Children that are left out are decoded as if their list were empty. -/
theorem ofJsonWithin_toJson (b : Nat) : ofJsonWithin (b + 1) (mk passed error children).toJson = do
    let error ← (Json.ofOptionString error).asOption Json.asString
    let children ← (Json.ofList toJson children).asList (ofJsonWithin b)
    return mk passed error children := by
  rw [Json.ofList, ← toJsonAll_eq]
  cases children with
  | nil => rfl
  | cons child children => rfl

theorem depth_child {r : CheckResult} (h : r ∈ children) :
    r.toJson.depth + 2 ≤ (mk passed error children).toJson.depth := by
  have hlist : (Json.arr (toJsonAll children)).depth < (mk passed error children).toJson.depth := by
    cases children with
    | nil => cases h
    | cons child children =>
      rw [toJson, Json.depth.eq_2, Json.depthOfMembers, Json.depthOfMembers, Json.depthOfMembers,
        toJsonAll]
      omega
  have hchild : r.toJson.depth < (Json.arr (toJsonAll children)).depth := by
    rw [toJsonAll_eq]
    exact Json.depthOfAll_lt.mp (Nat.lt_succ_self _) _ (List.mem_map_of_mem h)
  omega

/-- A verdict that can be written again. It is decoded with every bound beyond its depth. -/
structure Savable (bound : Nat) (r : CheckResult) : Prop where
  again : ∀ b, r.toJson.depth < b → ofJsonWithin b r.toJson = .ok r
  fits : r.toJson.Fits bound

/-- A verdict can be written again if its children can. -/
theorem savable_of_children
    (herror : Saved (Json.asOption Json.asString) Json.ofOptionString (bound + 1) error)
    (hchildren : ∀ r ∈ children, r.Savable bound) :
    (mk passed error children).Savable (bound + 2) := by
  refine ⟨fun b hb => ?_, ?_⟩
  · obtain ⟨b, rfl⟩ : ∃ k, b = k + 1 := ⟨b - 1, by omega⟩
    have hlist : (Json.ofList toJson children).asList (ofJsonWithin b) = .ok children := by
      refine Json.asList_ofList fun r hr => ?_
      have hdepth : r.toJson.depth + 2 ≤ (mk passed error children).toJson.depth := depth_child hr
      exact (hchildren r hr).again b (by omega)
    rw [ofJsonWithin_toJson, herror.again, hlist]
    rfl
  · cases children with
    | nil => exact Json.fits_obj.mpr (by simp [Json.fits_bool, herror.fits])
    | cons child others =>
      have hpos := Nat.lt_of_le_of_lt (Nat.zero_le _)
        (hchildren child List.mem_cons_self).fits.depth
      obtain ⟨b, rfl⟩ : ∃ k, bound = k + 1 := ⟨bound - 1, by omega⟩
      have hlist : (Json.arr (toJsonAll (child :: others))).Fits (b + 2) := by
        rw [toJsonAll_eq]
        exact Json.fits_ofList fun r hr => (hchildren r hr).fits
      refine Json.fits_obj.mpr ?_
      rw [toJsonAll] at hlist
      simp [Json.fits_bool, herror.fits, hlist]

theorem ofJsonWithin_savable {b : Nat} {j : Json} {r : CheckResult} (hj : j.Fits bound)
    (h : ofJsonWithin b j = .ok r) : r.Savable bound := by
  induction b generalizing j r bound with
  | zero => cases h
  | succ b ih =>
    obtain ⟨record, hrecord, h⟩ := Decoded.bind_eq_ok.mp h
    obtain ⟨passed, -, h⟩ := Decoded.bind_eq_ok.mp h
    obtain ⟨error, herror, h⟩ := Decoded.bind_eq_ok.mp h
    obtain ⟨children, hchildren, h⟩ := Decoded.bind_eq_ok.mp h
    obtain ⟨_, -, h⟩ := Decoded.bind_eq_ok.mp h
    cases h
    obtain ⟨k, rfl, hfits⟩ := Record.fits_of hj hrecord
    have herror := Json.optional_saved hfits Json.asString_saves (fun _ => Json.noConfusion) herror
    refine savable_of_children herror fun r hr => ?_
    rcases Record.fieldOr_ok hchildren with rfl | ⟨v, hv, hchildren⟩
    · cases hr
    · obtain ⟨es, rfl, hes⟩ := Json.asList_ok hchildren
      obtain ⟨m, hm, hinner⟩ := Record.fits_of (r := .elements es) (hfits _ hv) rfl
      obtain ⟨w, hw, hr⟩ := hes r hr
      obtain rfl : k = m + 1 := by omega
      exact ih (hinner w hw) hr

theorem saves : Saves ofJson toJson 0 := by
  intro j r bound hj h
  have hsavable := ofJsonWithin_savable hj h
  exact ⟨hsavable.again _ (Nat.lt_succ_self _), hsavable.fits⟩

end CheckResult

/-! ## Evaluations -/

theorem Evaluation.saves : Saves ofJson toJson 0 := by
  intro j e bound hj h
  obtain ⟨r, hr, h⟩ := Decoded.bind_eq_ok.mp h
  obtain ⟨checks, hchecks, h⟩ := Decoded.bind_eq_ok.mp h
  obtain ⟨regions, hregions, h⟩ := Decoded.bind_eq_ok.mp h
  obtain ⟨fields, hfields, h⟩ := Decoded.bind_eq_ok.mp h
  obtain ⟨_, -, h⟩ := Decoded.bind_eq_ok.mp h
  cases h
  obtain ⟨b, rfl, hfits⟩ := Record.fits_of hj hr
  have hchecks := Record.field_saved hfits (Json.asList_saves CheckResult.saves) hchecks
  have hregions := Record.field_saved hfits
    (Json.asList_saves (Json.asList_saves RegionResult.saves)) hregions
  have hfields := Record.field_saved hfits
    (Json.asList_saves (Json.asOption_saves FieldResult.saves fun _ => Json.noConfusion)) hfields
  have htext : toJson ⟨checks, regions, fields⟩ =
      .obj [("checks", .ofList CheckResult.toJson checks),
        ("regions", .ofList (.ofList RegionResult.toJson) regions),
        ("fields", .ofList (.ofOption FieldResult.toJson) fields)] := by
    rw [toJson, CheckResult.toJsonAll_eq]
    rfl
  refine ⟨?_, ?_⟩
  · rw [htext]
    show ((Json.ofList CheckResult.toJson checks).asList CheckResult.ofJson >>= fun checks =>
      (Json.ofList (Json.ofList RegionResult.toJson) regions).asList
        (Json.asList RegionResult.ofJson) >>= fun regions =>
      (Json.ofList (Json.ofOption FieldResult.toJson) fields).asList
        (Json.asOption FieldResult.ofJson) >>= fun fields =>
      .ok (⟨checks, regions, fields⟩ : Evaluation)) = _
    rw [hchecks.again, hregions.again, hfields.again]
    rfl
  · rw [htext]
    exact Json.fits_obj.mpr (by simp [hchecks.fits, hregions.fits, hfields.fits])

/-! ## Results for many documents -/

theorem DocumentLabel.saves : Saves ofJson toJson 0 := by
  intro j d bound hj h
  obtain ⟨r, hr, h⟩ := Decoded.bind_eq_ok.mp h
  obtain ⟨id, hid, h⟩ := Decoded.bind_eq_ok.mp h
  obtain ⟨title, -, h⟩ := Decoded.bind_eq_ok.mp h
  obtain ⟨_, -, h⟩ := Decoded.bind_eq_ok.mp h
  cases h
  obtain ⟨b, rfl, hfits⟩ := Record.fits_of hj hr
  have hid := Record.field_saved hfits Json.asNat_saves hid
  refine ⟨?_, Json.fits_obj.mpr ?_⟩
  · show (Json.asNat (.ofNat id) >>= fun id => .ok (⟨id, title⟩ : DocumentLabel)) = _
    rw [hid.again]
    rfl
  · simp [Json.fits_str, hid.fits]

theorem PatternError.saves : Saves ofJson toJson 0 := by
  intro j e bound hj h
  obtain ⟨r, hr, h⟩ := Decoded.bind_eq_ok.mp h
  obtain ⟨document, hdocument, h⟩ := Decoded.bind_eq_ok.mp h
  obtain ⟨patternName, -, h⟩ := Decoded.bind_eq_ok.mp h
  obtain ⟨error, -, h⟩ := Decoded.bind_eq_ok.mp h
  obtain ⟨_, -, h⟩ := Decoded.bind_eq_ok.mp h
  cases h
  obtain ⟨b, rfl, hfits⟩ := Record.fits_of hj hr
  have hdocument := Record.field_saved hfits DocumentLabel.saves hdocument
  refine ⟨?_, Json.fits_obj.mpr ?_⟩
  · show (DocumentLabel.ofJson document.toJson >>= fun document =>
      .ok (⟨document, patternName, error⟩ : PatternError)) = _
    rw [hdocument.again]
    rfl
  · simp [Json.fits_str, hdocument.fits]

namespace Tally

/-- The JSON object of the names of the matching patterns by document. -/
def matchedJson (matched : { m : List (Nat × List String) // Increasing m }) : Json :=
  .obj (matched.1.map fun m => (natString m.1, .ofList .str m.2))

/-- The numbers that stand for keys have 64 bits. -/
theorem lt_of_idOfKey {key : String} {id : Nat} (h : idOfKey key = .ok id) : id < twoTo 64 := by
  unfold idOfKey at h
  split at h
  · exact (Json.asNat_ok h).2
  · cases h

theorem idOfKey_natString {id : Nat} (h : id < twoTo 64) : idOfKey (natString id) = .ok id := by
  have hread := Json.readNumber_intText (n := id) (by omega) (by omega) .nil
  rw [List.append_nil, intText, if_neg (by omega), Int.natAbs_natCast] at hread
  rw [idOfKey, natString, String.toList_ofList, hread]
  exact Json.asNat_ofNat h

/-- Numbers of documents become keys and numbers again. -/
theorem asMatched_saves : Saves asMatched matchedJson 0 := by
  intro j matched bound hj h
  cases j with
  | obj ms =>
    obtain ⟨b, rfl, hfits⟩ := Record.fits_of hj rfl
    obtain ⟨pairs, hpairs, h⟩ := Decoded.bind_eq_ok.mp h
    cases h
    have hall : ∀ p ∈ entriesOf pairs, p.1 < twoTo 64 ∧
        Saved (Json.asList Json.asString) (Json.ofList .str) (b + 1) p.2 := by
      intro p hp
      obtain ⟨m, hm, hdecode⟩ := Decoded.mem_of_mapM hpairs p (mem_of_mem_entriesOf hp)
      obtain ⟨id, hid, hdecode⟩ := Decoded.bind_eq_ok.mp hdecode
      obtain ⟨names, hnames, hdecode⟩ := Decoded.bind_eq_ok.mp hdecode
      cases hdecode
      exact ⟨lt_of_idOfKey hid, Json.asList_saves Json.asString_saves m.2 names _
        (hfits m.2 (List.mem_map_of_mem hm)) hnames⟩
    have hagain : ((entriesOf pairs).map fun m => (natString m.1, Json.ofList .str m.2)).mapM
        (fun m => idOfKey m.1 >>= fun id => m.2.asList Json.asString >>= fun names =>
          (.ok (id, names) : Decoded (Nat × List String))) = .ok (entriesOf pairs) := by
      refine Decoded.mapM_map fun p hp => ?_
      obtain ⟨hid, hnames⟩ := hall p hp
      simp only [idOfKey_natString hid, hnames.again]
      rfl
    have hsame : entriesOf (entriesOf pairs) = entriesOf pairs :=
      (increasing_entriesOf pairs).entriesOf_eq
    refine ⟨?_, Json.fits_obj.mpr ?_⟩
    · show (((entriesOf pairs).map fun m => (natString m.1, Json.ofList .str m.2)).mapM
        (fun m => idOfKey m.1 >>= fun id => m.2.asList Json.asString >>= fun names =>
          (.ok (id, names) : Decoded (Nat × List String))) >>= fun pairs =>
        .ok (⟨entriesOf pairs, increasing_entriesOf pairs⟩ :
          { m : List (Nat × List String) // Increasing m })) = _
      rw [hagain]
      exact congrArg Except.ok (Subtype.ext hsame)
    · exact List.forall_mem_map.mpr fun p hp => (hall p hp).2.fits
  | null | bool | int | float | str | arr => cases h

theorem saves : Saves ofJson toJson 1 := by
  intro j t bound hj h
  obtain ⟨r, hr, h⟩ := Decoded.bind_eq_ok.mp h
  obtain ⟨errors, herrors, h⟩ := Decoded.bind_eq_ok.mp h
  obtain ⟨⟨matched, increasing⟩, hmatched, h⟩ := Decoded.bind_eq_ok.mp h
  obtain ⟨unmatched, hunmatched, h⟩ := Decoded.bind_eq_ok.mp h
  obtain ⟨_, -, h⟩ := Decoded.bind_eq_ok.mp h
  cases h
  obtain ⟨b, rfl, hfits⟩ := Record.fits_of hj hr
  have herrors := Record.fieldOr_saved hfits
    (Json.asList_saves (PatternError.saves.mono (Nat.zero_le 1))) Json.saved_nil herrors
  have hmatched := Record.fieldOr_saved hfits (asMatched_saves.mono (Nat.zero_le 1))
    ⟨rfl, Json.fits_obj.mpr (by simp)⟩ hmatched
  have hunmatched := Record.fieldOr_saved hfits
    (Json.asList_saves (DocumentLabel.saves.mono (Nat.zero_le 1))) Json.saved_nil hunmatched
  refine ⟨?_, Json.fits_obj.mpr ?_⟩
  · show ((Json.ofList PatternError.toJson errors).asList PatternError.ofJson >>= fun errors =>
      asMatched (matchedJson ⟨matched, increasing⟩) >>= fun matched =>
      (Json.ofList DocumentLabel.toJson unmatched).asList DocumentLabel.ofJson >>= fun unmatched =>
      .ok (⟨errors, matched.1, matched.2, unmatched⟩ : Tally)) = _
    rw [herrors.again, hmatched.again, hunmatched.again]
    rfl
  · refine List.forall_mem_cons.mpr ⟨herrors.fits, List.forall_mem_cons.mpr ⟨hmatched.fits, ?_⟩⟩
    exact List.forall_mem_singleton.mpr hunmatched.fits

end Tally

/-! ## Results without numbers with a point -/

namespace Json

variable {α : Type} {encode : α → Json}

theorem floats_ofList_nil (h : ∀ a, (encode a).floats = []) (as : List α) :
    (ofList encode as).floats = [] := by
  rw [floats_ofList]
  exact List.flatMap_eq_nil_iff.mpr fun a _ => h a

theorem floats_ofOptionString (s? : Option String) : (ofOptionString s?).floats = [] :=
  floats_ofOption (fun _ => rfl) s?

theorem floats_ofValues (values : List (String × String)) : (ofValues values).floats = [] := by
  rw [ofValues, floats, floatsOfMembers_eq, List.flatMap_map]
  exact List.flatMap_eq_nil_iff.mpr fun _ _ => rfl

end Json

theorem RegionResult.floats_toJson (r : RegionResult) : r.toJson.floats = [] := by
  have hvalues := Json.floats_ofOption Json.floats_ofValues r.values
  have hpositions := Json.floats_ofOption (Json.floats_ofList_nil fun p : Nat × Nat =>
    (rfl : (Json.ofPlace p).floats = [])) r.positions
  simp [toJson, Json.floats, Json.floatsOfMembers, hvalues, hpositions, Json.floats_ofOptionString]

theorem FieldResult.floats_toJson (r : FieldResult) : r.toJson.floats = [] := by
  simp [toJson, Json.floats, Json.floatsOfMembers, Json.floats_ofOptionString]

theorem CheckResult.floats_toJson (r : CheckResult) : r.toJson.floats = [] := by
  induction r using CheckResult.induction with
  | mk passed error children ih =>
    have hchildren : Json.floatsOfAll (toJsonAll children) = [] := by
      rw [toJsonAll_eq, Json.floatsOfAll_eq, List.flatMap_map]
      exact List.flatMap_eq_nil_iff.mpr ih
    cases children with
    | nil => simp [toJson, Json.floats, Json.floatsOfMembers, Json.floats_ofOptionString]
    | cons child children =>
      rw [toJsonAll] at hchildren
      simp [toJson, Json.floats, Json.floatsOfMembers, Json.floats_ofOptionString, hchildren]

theorem Evaluation.floats_toJson (e : Evaluation) : e.toJson.floats = [] := by
  have hchecks : (Json.arr (CheckResult.toJsonAll e.checks)).floats = [] := by
    rw [CheckResult.toJsonAll_eq]
    exact Json.floats_ofList_nil CheckResult.floats_toJson e.checks
  have hregions := Json.floats_ofList_nil
    (Json.floats_ofList_nil RegionResult.floats_toJson) e.regions
  have hfields := Json.floats_ofList_nil
    (Json.floats_ofOption FieldResult.floats_toJson) e.fields
  rw [Json.floats] at hchecks
  simp [toJson, Json.floats, Json.floatsOfMembers, hchecks, hregions, hfields]

theorem Tally.floats_toJson (t : Tally) : t.toJson.floats = [] := by
  have herrors := Json.floats_ofList_nil (fun e : PatternError =>
    (rfl : e.toJson.floats = [])) t.errors
  have hunmatched := Json.floats_ofList_nil (fun d : DocumentLabel =>
    (rfl : d.toJson.floats = [])) t.unmatched
  have hmatched : Json.floatsOfMembers
      (t.matched.map fun m => (natString m.1, Json.ofList .str m.2)) = [] := by
    rw [Json.floatsOfMembers_eq, List.flatMap_map]
    exact List.flatMap_eq_nil_iff.mpr fun m _ => Json.floats_ofList_nil (fun _ => rfl) m.2
  simp [toJson, Json.floats, Json.floatsOfMembers, herrors, hmatched, hunmatched]

/-! ## Documents and results on the wire -/

/-- A tally is nested no deeper than its errors with their documents. -/
theorem Tally.depth_toJson (t : Tally) : t.toJson.depth < 5 := by
  have hlabel (d : DocumentLabel) : d.toJson.depth < 2 := (by decide : 1 < 2)
  have herror (e : PatternError) : e.toJson.depth < 3 := (by decide : 2 < 3)
  have herrors := Json.depth_ofList_lt fun e (_ : e ∈ t.errors) => herror e
  have hunmatched := Json.depth_ofList_lt fun d (_ : d ∈ t.unmatched) => hlabel d
  have hnames (names : List String) : (Json.ofList .str names).depth < 2 :=
    Json.depth_ofList_lt fun _ _ => Nat.succ_pos _
  refine Json.depth_obj_lt.mpr (List.forall_mem_cons.mpr ⟨herrors, List.forall_mem_cons.mpr
    ⟨?_, List.forall_mem_singleton.mpr (Nat.lt_succ_of_lt hunmatched)⟩⟩)
  refine Json.depth_obj_lt.mpr (List.forall_mem_map.mpr fun m _ => ?_)
  exact Nat.lt_succ_of_lt (hnames m.2)

/-- Results that were read from a text survive, however deep they are nested there. -/
theorem Saves.survives_of_noFloats {α : Type} {decode : Json → Decoded α} {encode : α → Json}
    (hsaves : Saves decode encode 0) (hfloats : ∀ a, (encode a).floats = []) {t : String} {a : α}
    (h : readAs decode t = .ok a) : Survives (readAs decode) encode a :=
  hsaves.survives Json.readString_quote h id (by simp [hfloats a])

/-- Documents and results of all types that were read from texts survive. The numbers of a document
have to be read from their texts. -/
theorem documents_and_results_survive (t : String) :
    (∀ d, readAs Document.ofJson t = .ok d →
      (∀ x ∈ d.numbers, x.isFinite = true → Json.ReadsBack x) →
        Survives (readAs Document.ofJson) Document.toJson d) ∧
    (∀ r, readAs RegionResult.ofJson t = .ok r →
      Survives (readAs RegionResult.ofJson) RegionResult.toJson r) ∧
    (∀ r, readAs CheckResult.ofJson t = .ok r →
      Survives (readAs CheckResult.ofJson) CheckResult.toJson r) ∧
    (∀ r, readAs FieldResult.ofJson t = .ok r →
      Survives (readAs FieldResult.ofJson) FieldResult.toJson r) ∧
    (∀ e, readAs Evaluation.ofJson t = .ok e →
      Survives (readAs Evaluation.ofJson) Evaluation.toJson e) ∧
    ∀ u, Tally.read t = .ok u → Survives Tally.read Tally.toJson u := by
  refine ⟨fun d h hnumbers => Document.survives h hnumbers, ?_, ?_, ?_, ?_, fun u h => ?_⟩
  · exact fun r => RegionResult.saves.survives_of_noFloats RegionResult.floats_toJson
  · exact fun r => CheckResult.saves.survives_of_noFloats CheckResult.floats_toJson
  · exact fun r => FieldResult.saves.survives_of_noFloats FieldResult.floats_toJson
  · exact fun e => Evaluation.saves.survives_of_noFloats Evaluation.floats_toJson
  · exact Tally.saves.survives Json.readNumberKey_quote h
      (fun _ => Nat.lt_trans u.depth_toJson (by decide)) (by simp [u.floats_toJson])

/-- The value of a document with a year of five digits. It leaves out most of its members. -/
def letterValue : Json :=
  .obj [("id", .int 7), ("date_created", .str "+12000-02-29"),
    ("pages", .arr [.obj [("width", .float 595.28), ("text_runs", .arr [.obj
      [("text", .str "Total"), ("x", .float 0.5), ("y", .float 0.5), ("x2", .float 0.5),
        ("y2", .float 0.5)]])]])]

def letter : Document :=
  { id := 7, dateCreated := some ⟨12000, 2, 29, by decide⟩
    pages := [{ width := 595.28, runs := [⟨⟨0.5, 0.5, 0.5, 0.5⟩, "Total"⟩] }] }

theorem readAs_letter : readAs Document.ofJson letterValue.compact = .ok letter := by
  have hwithin : letterValue.Within Json.ReadsBack := by
    simp [letterValue, Json.Within, Json.WithinMembers, Json.WithinAll, readsBack_half,
      readsBack_width, twoTo]
  exact readAs_of_read? ((Json.read?_compact hwithin).trans (if_pos (by decide))) rfl

/-- The value of a verdict that is written as an array, with a child that has no members but one. -/
def verdictValue : Json :=
  .arr [.bool false, .str "no", .arr [.obj [("passed", .bool true)]]]

def verdict : CheckResult := .mk false (some "no") [.mk true none []]

theorem readAs_verdict : readAs CheckResult.ofJson verdictValue.compact = .ok verdict := by
  have hwithin : verdictValue.Within Json.ReadsBack := by
    simp [verdictValue, Json.Within, Json.WithinMembers, Json.WithinAll]
  exact readAs_of_read? ((Json.read?_compact hwithin).trans (if_pos (by decide))) rfl

/-- The value of results in which two members are left out. -/
def tallyValue : Json :=
  .obj [("matched", .obj [("10", .arr [.str "Bill"]), ("9", .arr [])])]

def tally : Tally :=
  { matched := [(9, []), (10, ["Bill"])], increasing := by simp [Increasing] }

theorem Tally.read_tally : Tally.read tallyValue.compact = .ok tally := by
  have hwithin : tallyValue.Within Json.ReadsBack := by
    simp [tallyValue, Json.Within, Json.WithinMembers, Json.WithinAll]
  have hread := Json.readWith?_compact hwithin Json.readNumberKey_quote
  exact decodeRead_some (hread.trans (if_pos (by decide))) rfl

/-- The value of a region without a match, and of a field without a type. -/
def missValue : Json :=
  .obj [("text", .str "Total"), ("group_values", .null), ("group_positions", .null)]

def miss : RegionResult := { text := "Total" }

def blankValue : Json := .obj [("value", .str "")]

def blank : FieldResult := { value := some "" }

/-- The value of an evaluation with both. -/
def evaluationValue : Json :=
  .obj [("checks", .arr [verdictValue]), ("regions", .arr [.arr [missValue]]),
    ("fields", .arr [.null, blankValue])]

def evaluation : Evaluation :=
  { checks := [verdict], regions := [[miss]], fields := [none, some blank] }

theorem readAs_parts : readAs RegionResult.ofJson missValue.compact = .ok miss ∧
    readAs FieldResult.ofJson blankValue.compact = .ok blank ∧
    readAs Evaluation.ofJson evaluationValue.compact = .ok evaluation := by
  have hwithin : missValue.Within Json.ReadsBack ∧ blankValue.Within Json.ReadsBack ∧
      evaluationValue.Within Json.ReadsBack := by
    simp [missValue, blankValue, evaluationValue, verdictValue, Json.Within, Json.WithinMembers,
      Json.WithinAll]
  refine ⟨?_, ?_, ?_⟩
  · exact readAs_of_read? ((Json.read?_compact hwithin.1).trans (if_pos (by decide))) rfl
  · exact readAs_of_read? ((Json.read?_compact hwithin.2.1).trans (if_pos (by decide))) rfl
  · exact readAs_of_read? ((Json.read?_compact hwithin.2.2).trans (if_pos (by decide))) rfl

theorem letter_and_results_survive :
    Survives (readAs Document.ofJson) Document.toJson letter ∧
      Survives (readAs RegionResult.ofJson) RegionResult.toJson miss ∧
      Survives (readAs CheckResult.ofJson) CheckResult.toJson verdict ∧
      Survives (readAs FieldResult.ofJson) FieldResult.toJson blank ∧
      Survives (readAs Evaluation.ofJson) Evaluation.toJson evaluation ∧
      Survives Tally.read Tally.toJson tally := by
  have hnumbers : ∀ x ∈ letter.numbers, x.isFinite = true → Json.ReadsBack x := by
    simp [letter, Document.numbers, Rectangle.edges, readsBack_zero, readsBack_half,
      readsBack_width]
  obtain ⟨hmiss, hblank, hevaluation⟩ := readAs_parts
  refine ⟨?_, ?_, ?_, ?_, ?_, ?_⟩
  · exact (documents_and_results_survive _).1 letter readAs_letter hnumbers
  · exact (documents_and_results_survive _).2.1 miss hmiss
  · exact (documents_and_results_survive _).2.2.1 verdict readAs_verdict
  · exact (documents_and_results_survive _).2.2.2.1 blank hblank
  · exact (documents_and_results_survive _).2.2.2.2.1 evaluation hevaluation
  · exact (documents_and_results_survive _).2.2.2.2.2 tally Tally.read_tally

end Dossier
