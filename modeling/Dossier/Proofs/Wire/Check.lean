import Dossier.Proofs.Wire.Document
import Dossier.Wire.Pattern

/-!
# Checks that are written again

All that is decoded as a region, a check or a field is written so that it is decoded again. Only a
check can be written nested deeper than it was, by one level, since it may leave out its lists.

* `Region.saves`, `Field.saves` : regions and fields;
* `Check.ofRecord_saved` : a check, if the checks in it can be written again;
* `Check.saves` : all checks.
-/

namespace Dossier

variable {bound : Nat}

/-! ## Parts of patterns -/

theorem PageSelector.saves : Saves ofJson toJson 0 := by
  intro j page bound hj h
  unfold ofJson at h
  split at h
  · rename_i n
    split_ifs at h with hlast hindex
    · cases h
      exact ⟨rfl, trivial, hj.depth⟩
    · cases h
      have hpage : (exactPage n.toNat).toJson = .int n := by
        rw [toJson, signed64, if_pos (by omega), Int.toNat_of_nonneg hindex.1]
      refine ⟨?_, hpage ▸ hj⟩
      rw [hpage, ofJson, if_neg hlast, if_pos hindex]
  · have hnames : ∀ m ∈ names, toJson m.2 = .str m.1 ∧ names.lookup m.1 = some m.2 := by
      simp [names, toJson, List.lookup_cons]
    obtain ⟨s, hs⟩ := Json.asName_ok h
    have hpage : page.toJson = .str s := (hnames _ hs).1
    have hsaved := Json.asName_saves hnames _ page bound hj h
    refine ⟨?_, hsaved.fits⟩
    rw [← hsaved.again, hpage]
    rfl

theorem Notation.saves : Saves ofJson toJson 0 :=
  Json.asName_saves (by simp [names, toJson, List.lookup_cons])

theorem FieldKind.saves : Saves ofJson toJson 0 :=
  Json.asName_saves (by simp [toJson, List.lookup_cons])

theorem Preprocess.saves : Saves ofJson toJson 0 :=
  Json.asName_saves (by simp [toJson, List.lookup_cons])

theorem Field.saves : Saves ofJson toJson 0 := by
  intro j f bound hj h
  obtain ⟨r, hr, h⟩ := Decoded.bind_eq_ok.mp h
  obtain ⟨kind, hkind, h⟩ := Decoded.bind_eq_ok.mp h
  obtain ⟨name, -, h⟩ := Decoded.bind_eq_ok.mp h
  obtain ⟨template, -, h⟩ := Decoded.bind_eq_ok.mp h
  obtain ⟨_, -, h⟩ := Decoded.bind_eq_ok.mp h
  cases h
  obtain ⟨b, rfl, hfits⟩ := Record.fits_of hj hr
  have hkind := Record.fieldOr_saved hfits FieldKind.saves ⟨rfl, Json.fits_str _⟩ hkind
  refine ⟨?_, Json.fits_obj.mpr ?_⟩
  · show (FieldKind.ofJson kind.toJson >>= fun kind => .ok (⟨kind, name, template⟩ : Field)) = _
    rw [hkind.again]
    rfl
  · simp [hkind.fits, Json.fits_str]

/-! ## Regions -/

/-- The members of a region are nested less deep than the object it was decoded from. -/
theorem Region.saved {j : Json} {r : Region} (hj : j.Fits bound) (h : ofJson j = .ok r) :
    ofJson r.toJson = .ok r ∧ ∃ b, bound = b + 2 ∧ ∀ m ∈ r.toMembers, m.2.Fits (b + 1) := by
  obtain ⟨record, hrecord, h⟩ := Decoded.bind_eq_ok.mp h
  obtain ⟨page, hpage, h⟩ := Decoded.bind_eq_ok.mp h
  obtain ⟨rect, hrect, h⟩ := Decoded.bind_eq_ok.mp h
  obtain ⟨kind, hkind, h⟩ := Decoded.bind_eq_ok.mp h
  obtain ⟨simpleText, hsimple, h⟩ := Decoded.bind_eq_ok.mp h
  obtain ⟨regexText, hregex, h⟩ := Decoded.bind_eq_ok.mp h
  cases h
  obtain ⟨b, rfl, hfits⟩ := Record.fits_of hj (Record.of_ofObject hrecord)
  have htext : Saves (Json.asOption Json.asString) Json.ofOptionString 0 :=
    Json.asOption_saves Json.asString_saves fun s => Json.noConfusion
  have hpage := Record.fieldOr_saved hfits PageSelector.saves ⟨rfl, Json.fits_str _⟩ hpage
  have hkind := Record.fieldOr_saved hfits Notation.saves ⟨rfl, Json.fits_str _⟩ hkind
  have hsimple := Record.fieldOr_saved hfits htext ⟨rfl, Json.fits_null⟩ hsimple
  have hregex := Record.fieldOr_saved hfits htext ⟨rfl, Json.fits_null⟩ hregex
  refine ⟨?_, b, rfl, ?_⟩
  · show (PageSelector.ofJson page.toJson >>= fun page =>
      Notation.ofJson kind.toJson >>= fun kind =>
      (Json.ofOptionString simpleText).asOption Json.asString >>= fun simpleText =>
      (Json.ofOptionString regexText).asOption Json.asString >>= fun regexText =>
      .ok (⟨rect, page, ⟨kind, simpleText, regexText⟩⟩ : Region)) = _
    rw [hpage.again, hkind.again, hsimple.again, hregex.again]
    rfl
  · refine List.forall_mem_append.mpr ⟨Rectangle.saved hfits hrect, ?_⟩
    simp [hpage.fits, hkind.fits, hsimple.fits, hregex.fits]

theorem Region.saves : Saves ofJson toJson 0 := by
  intro j r bound hj h
  obtain ⟨hagain, b, rfl, hmembers⟩ := Region.saved hj h
  exact ⟨hagain, Json.fits_obj.mpr hmembers⟩

/-! ## Checks -/

namespace Check

theorem toJsonAll_eq (checks : List Check) : toJsonAll checks = checks.map toJson := by
  induction checks with
  | nil => rfl
  | cons c checks ih => rw [toJsonAll, List.map_cons, ih]

theorem toJson_ne_null (c : Check) : c.toJson ≠ .null := by
  cases c with
  | negation check? => cases check? <;> simp [toJson]
  | _ => simp [toJson]

/-- A condition that can be written again. It is decoded with every bound beyond its depth. -/
structure Savable (bound : Nat) (c : Check) : Prop where
  again : ∀ b, c.toJson.depth < b → ofJsonWithin b c.toJson = .ok c
  fits : c.toJson.Fits bound

theorem Savable.mono {c : Check} {b : Nat} (h : c.Savable bound) (hb : bound ≤ b) :
    c.Savable b := ⟨h.again, h.fits.mono hb⟩

/-- A condition can be written again if every bound but zero will do. -/
theorem Savable.of_succ {c : Check} (hfits : c.toJson.Fits bound)
    (h : ∀ b, ofJsonWithin (b + 1) c.toJson = .ok c) : c.Savable bound := by
  refine ⟨fun b hb => ?_, hfits⟩
  obtain ⟨b, rfl⟩ : ∃ k, b = k + 1 := ⟨b - 1, by omega⟩
  exact h b

section Fields

variable {inner : Json → Decoded Check} {r : Record} {checks : List Check}
  (hr : ∀ v ∈ r.values, v.Fits (bound + 1))

theorem ofNameRecord_saved {make : String → Check} {c : Check}
    (hfits : ∀ name, (make name).toJson.Fits bound)
    (hagain : ∀ b name, ofJsonWithin (b + 1) (make name).toJson = .ok (make name))
    (h : ofNameRecord make r = .ok c) : c.Savable bound := by
  obtain ⟨name, -, h⟩ := Decoded.bind_eq_ok.mp h
  obtain ⟨_, -, h⟩ := Decoded.bind_eq_ok.mp h
  cases h
  exact .of_succ (hfits name) fun b => hagain b name

include hr

theorem pageCount_saved {count : Nat} (h : r.field 0 "num_pages" Json.asNat = .ok count) :
    (pageCount count).Savable (bound + 2) := by
  have hcount := Record.field_saved hr Json.asNat_saves h
  refine .of_succ (Json.fits_obj.mpr ?_) fun b => ?_
  · simp [Json.fits_str, hcount.fits]
  · show (Json.asNat (.ofNat count) >>= fun count => .ok (pageCount count)) = _
    rw [hcount.again]
    rfl

theorem tags_saved {includes excludes : List String}
    (hincludes : r.fieldOr 0 "includes" [] (Json.asList Json.asString) = .ok includes)
    (hexcludes : r.fieldOr 1 "excludes" [] (Json.asList Json.asString) = .ok excludes) :
    (tags includes excludes).Savable (bound + 3) := by
  have hlist := Json.asList_saves (Json.asString_saves.mono (Nat.zero_le 1) : Saves _ _ 1)
  have hincludes := Record.fieldOr_saved hr hlist Json.saved_nil hincludes
  have hexcludes := Record.fieldOr_saved hr hlist Json.saved_nil hexcludes
  refine .of_succ (Json.fits_obj.mpr ?_) fun b => ?_
  · simp [Json.fits_str, hincludes.fits, hexcludes.fits]
  · show ((Json.ofList .str includes).asList Json.asString >>= fun includes =>
      (Json.ofList .str excludes).asList Json.asString >>= fun excludes =>
      .ok (tags includes excludes)) = _
    rw [hincludes.again, hexcludes.again]
    rfl

theorem dateCreated_saved {before after : Option Date} {year : Option Int}
    (hbefore : r.fieldOr 0 "before" none (Json.asOption Date.ofJson) = .ok before)
    (hafter : r.fieldOr 1 "after" none (Json.asOption Date.ofJson) = .ok after)
    (hyear : r.fieldOr 2 "year" none (Json.asOption Json.asInt32) = .ok year) :
    (dateCreated before after year).Savable (bound + 2) := by
  have hdate : Saves (Json.asOption Date.ofJson) (Json.ofOption Date.toJson) 0 :=
    Json.asOption_saves Date.saves fun d => Json.noConfusion
  have hint32 : Saves (Json.asOption Json.asInt32) (Json.ofOption Json.int) 0 :=
    Json.asOption_saves (Json.asIntIn_saves _ _) fun n => Json.noConfusion
  have hbefore := Record.fieldOr_saved hr hdate ⟨rfl, Json.fits_null⟩ hbefore
  have hafter := Record.fieldOr_saved hr hdate ⟨rfl, Json.fits_null⟩ hafter
  have hyear := Record.fieldOr_saved hr hint32 ⟨rfl, Json.fits_null⟩ hyear
  refine .of_succ (Json.fits_obj.mpr ?_) fun b => ?_
  · simp [Json.fits_str, hbefore.fits, hafter.fits, hyear.fits]
  · show ((Json.ofOption Date.toJson before).asOption Date.ofJson >>= fun before =>
      (Json.ofOption Date.toJson after).asOption Date.ofJson >>= fun after =>
      (Json.ofOption .int year).asOption Json.asInt32 >>= fun year =>
      .ok (dateCreated before after year)) = _
    rw [hbefore.again, hafter.again, hyear.again]
    rfl

variable (hinner : ∀ v c b, v.Fits b → inner v = .ok c → c.Savable (b + 1))

include hinner

/-- The conditions in a list that was decoded can be written again. -/
theorem saved_of_checks (h : r.fieldOr 0 "checks" [] (Json.asList inner) = .ok checks) :
    ∀ c ∈ checks, c.Savable (bound + 1) := by
  intro c hc
  rcases Record.fieldOr_ok h with rfl | ⟨v, hv, h⟩
  · cases hc
  · obtain ⟨es, rfl, hes⟩ := Json.asList_ok h
    obtain ⟨b, hb, hfits⟩ := Record.fits_of (r := .elements es) (hr _ hv) rfl
    obtain ⟨w, hw, hc⟩ := hes c hc
    obtain rfl : bound = b + 1 := by omega
    exact hinner w c (b + 1) (hfits w hw) hc

theorem negation_saved {check? : Option Check}
    (h : r.fieldOr 0 "check" none (Json.asOption inner) = .ok check?) :
    (negation check?).Savable (bound + 3) := by
  have hsaved : ∀ c, check? = some c → c.Savable (bound + 2) := by
    rintro c rfl
    rcases Record.fieldOr_ok h with hnone | ⟨v, hv, h⟩
    · cases hnone
    · rcases Json.asOption_ok h with hnone | ⟨d, hd, hv'⟩
      · cases hnone
      · cases hd
        exact hinner v c _ (hr v hv) hv'
  cases check? with
  | none =>
    refine .of_succ (Json.fits_obj.mpr ?_) fun b => rfl
    simp [Json.fits_str, Json.fits_null]
  | some c =>
    have hc := hsaved c rfl
    refine ⟨fun b hb => ?_, Json.fits_obj.mpr ?_⟩
    · obtain ⟨b, rfl⟩ : ∃ k, b = k + 1 := ⟨b - 1, by omega⟩
      have hdepth : c.toJson.depth < b := by
        rw [toJson, Json.depth, Json.depthOfMembers, Json.depthOfMembers, Json.depthOfMembers] at hb
        omega
      show (c.toJson.asOption (ofJsonWithin b) >>= fun check? => .ok (negation check?)) = _
      rw [Json.asOption_of_ne c.toJson_ne_null, hc.again b hdepth]
      rfl
    · simp [Json.fits_str, hc.fits]

end Fields

section Lists

variable {checks : List Check} (h : ∀ c ∈ checks, c.Savable (bound + 1))

include h

theorem fits_checks : (Json.arr (toJsonAll checks)).Fits (bound + 2) := by
  rw [toJsonAll_eq]
  exact Json.fits_ofList fun c hc => (h c hc).fits

theorem asList_checks {b : Nat} (hb : (Json.arr (toJsonAll checks)).depth ≤ b) :
    (Json.arr (toJsonAll checks)).asList (ofJsonWithin b) = .ok checks := by
  rw [toJsonAll_eq] at hb ⊢
  refine Json.asList_ofList fun c hc => (h c hc).again b (Nat.lt_of_lt_of_le ?_ hb)
  exact Json.depthOfAll_lt.mp (Nat.lt_succ_self _) _ (List.mem_map_of_mem hc)

/-- A condition that is written as a list of conditions can be written again if they can. -/
theorem list_saved {make : List Check → Check} {name : String}
    (htoJson : (make checks).toJson =
      .obj [("type", .str name), ("checks", .arr (toJsonAll checks))])
    (hagain : ∀ b, ofJsonWithin (b + 1) (make checks).toJson =
      (Json.arr (toJsonAll checks)).asList (ofJsonWithin b) >>= fun checks => .ok (make checks)) :
    (make checks).Savable (bound + 3) := by
  refine ⟨fun b hb => ?_, ?_⟩
  · obtain ⟨b, rfl⟩ : ∃ k, b = k + 1 := ⟨b - 1, by omega⟩
    rw [htoJson, Json.depth, Json.depthOfMembers, Json.depthOfMembers, Json.depthOfMembers] at hb
    rw [hagain, asList_checks h (by omega)]
    rfl
  · rw [htoJson]
    exact Json.fits_obj.mpr (by simp [Json.fits_str, fits_checks h])

end Lists

theorem region_saved {ms : List (String × Json)} {region : Region}
    (hr : ∀ m ∈ ms, m.2.Fits (bound + 1)) (h : Region.ofJson (.obj ms) = .ok region) :
    (Check.region region).Savable (bound + 2) := by
  obtain ⟨hagain, b, hb, hmembers⟩ := Region.saved (Json.fits_obj.mpr hr) h
  obtain rfl : bound = b := by omega
  refine .of_succ (Json.fits_obj.mpr ?_) fun b => ?_
  · exact List.forall_mem_cons.mpr ⟨Json.fits_str _, hmembers⟩
  · show (Region.ofJson region.toJson >>= fun region => .ok (Check.region region)) = _
    rw [hagain]
    rfl

/-- One step of decoding: with the conditions in it, a condition can be written again. -/
theorem ofRecord_saved {inner : Json → Decoded Check} {name : String} {r : Record} {c : Check}
    (hr : ∀ v ∈ r.values, v.Fits (bound + 1))
    (hinner : ∀ v c b, v.Fits b → inner v = .ok c → c.Savable (b + 1))
    (h : ofRecord inner name r = .ok c) : c.Savable (bound + 3) := by
  unfold ofRecord at h
  split at h
  case h_1 =>
    obtain ⟨count, hcount, h⟩ := Decoded.bind_eq_ok.mp h
    obtain ⟨_, -, h⟩ := Decoded.bind_eq_ok.mp h
    cases h
    exact (pageCount_saved hr hcount).mono (Nat.le_succ _)
  case h_2 =>
    split at h
    · obtain ⟨region, hregion, h⟩ := Decoded.bind_eq_ok.mp h
      cases h
      exact (region_saved (List.forall_mem_map.mp hr) hregion).mono (Nat.le_succ _)
    · cases h
  case h_3 =>
    obtain ⟨pattern, -, h⟩ := Decoded.bind_eq_ok.mp h
    obtain ⟨_, -, h⟩ := Decoded.bind_eq_ok.mp h
    cases h
    exact .of_succ (Json.fits_obj.mpr (by simp [Json.fits_str])) fun b => rfl
  case h_4 | h_5 | h_6 =>
    exact ofNameRecord_saved (fun name => Json.fits_obj.mpr (by simp [Json.fits_str]))
      (fun b name => rfl) h
  case h_7 =>
    obtain ⟨includes, hincludes, h⟩ := Decoded.bind_eq_ok.mp h
    obtain ⟨excludes, hexcludes, h⟩ := Decoded.bind_eq_ok.mp h
    obtain ⟨_, -, h⟩ := Decoded.bind_eq_ok.mp h
    cases h
    exact tags_saved hr hincludes hexcludes
  case h_8 =>
    obtain ⟨before, hbefore, h⟩ := Decoded.bind_eq_ok.mp h
    obtain ⟨after, hafter, h⟩ := Decoded.bind_eq_ok.mp h
    obtain ⟨year, hyear, h⟩ := Decoded.bind_eq_ok.mp h
    obtain ⟨_, -, h⟩ := Decoded.bind_eq_ok.mp h
    cases h
    exact (dateCreated_saved hr hbefore hafter hyear).mono (Nat.le_succ _)
  case h_9 | h_10 =>
    obtain ⟨checks, hchecks, h⟩ := Decoded.bind_eq_ok.mp h
    obtain ⟨_, -, h⟩ := Decoded.bind_eq_ok.mp h
    cases h
    exact list_saved (saved_of_checks hr hinner hchecks) rfl fun b => rfl
  case h_11 =>
    obtain ⟨check?, hcheck, h⟩ := Decoded.bind_eq_ok.mp h
    obtain ⟨_, -, h⟩ := Decoded.bind_eq_ok.mp h
    cases h
    exact negation_saved hr hinner hcheck
  case h_12 => cases h

/-- The fields of a condition without its sort are nested less deep than the condition. -/
theorem fits_of_splitType {j : Json} {name : String} {r : Record} (hj : j.Fits bound)
    (h : splitType j = .ok (name, r)) :
    ∃ b, bound = b + 2 ∧ ∀ v ∈ r.values, v.Fits (b + 1) := by
  unfold splitType at h
  split at h
  · rename_i members
    obtain ⟨b, hb, hfits⟩ := Record.fits_of (r := .members members) hj rfl
    refine ⟨b, hb, ?_⟩
    split at h
    · cases h
      exact List.forall_mem_map.mpr fun m hm =>
        List.forall_mem_map.mp hfits m (List.mem_of_mem_filter hm)
    · cases h
    · cases h
    · cases h
  · rename_i name' elements
    obtain ⟨b, hb, hfits⟩ := Record.fits_of (r := .elements (.str name' :: elements)) hj rfl
    cases h
    exact ⟨b, hb, fun v hv => hfits v (List.mem_cons_of_mem _ hv)⟩
  · cases h
  · cases h

theorem ofJsonWithin_savable {b : Nat} {j : Json} {c : Check} (hj : j.Fits bound)
    (h : ofJsonWithin b j = .ok c) : c.Savable (bound + 1) := by
  induction b generalizing j c bound with
  | zero => cases h
  | succ b ih =>
    obtain ⟨⟨name, r⟩, hsplit, h⟩ := Decoded.bind_eq_ok.mp h
    obtain ⟨k, rfl, hr⟩ := fits_of_splitType hj hsplit
    exact ofRecord_saved hr (fun v c k hv hc => ih hv hc) h

theorem saves : Saves ofJson toJson 1 := by
  intro j c bound hj h
  have hsaved := ofJsonWithin_savable hj h
  exact ⟨hsaved.again _ (Nat.lt_succ_self _), hsaved.fits⟩

end Check

end Dossier
