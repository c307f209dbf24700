import Dossier.Proofs.Check.Tree
import Dossier.Proofs.Wire.Check
import Dossier.Proofs.Wire.Written

/-!
# Patterns that are written and read again

A pattern that was read from a text is written as a text that gives the same pattern, as long as
that text is not nested too deep. It is nested one level deeper than the first one at most.

* `Pattern.saves` : what is decoded as a pattern is written so that it is decoded again;
* `Pattern.floats_toJson` : the numbers of a pattern are the edges of its regions;
* `Pattern.read_written` : texts of patterns.
-/

namespace Dossier

/-- Patterns can be written again. Their values are nested one level deeper at most. -/
theorem Pattern.saves : Saves ofJson toJson 1 := by
  intro j p bound hj h
  obtain ⟨r, hr, h⟩ := Decoded.bind_eq_ok.mp h
  obtain ⟨name, -, h⟩ := Decoded.bind_eq_ok.mp h
  obtain ⟨pageDefault, hpage, h⟩ := Decoded.bind_eq_ok.mp h
  obtain ⟨preprocess, hpreprocess, h⟩ := Decoded.bind_eq_ok.mp h
  obtain ⟨checks, hchecks, h⟩ := Decoded.bind_eq_ok.mp h
  obtain ⟨regions, hregions, h⟩ := Decoded.bind_eq_ok.mp h
  obtain ⟨fields, hfields, h⟩ := Decoded.bind_eq_ok.mp h
  obtain ⟨_, -, h⟩ := Decoded.bind_eq_ok.mp h
  cases h
  obtain ⟨b, rfl, hfits⟩ := Record.fits_of hj hr
  have hpage := Record.fieldOr_saved hfits (Json.asNat_saves.mono (Nat.zero_le 1))
    ⟨rfl, ⟨by decide, by decide⟩, Nat.succ_pos _⟩ hpage
  have hpreprocess := Record.fieldOr_saved hfits
    ((Json.asOption_saves Preprocess.saves fun _ => Json.noConfusion).mono (Nat.zero_le 1))
    ⟨rfl, Json.fits_null⟩ hpreprocess
  have hchecks := Record.fieldOr_saved hfits (Json.asList_saves (Check.saves)) Json.saved_nil
    hchecks
  have hregions := Record.fieldOr_saved hfits
    (Json.asList_saves (Region.saves.mono (Nat.zero_le 1))) Json.saved_nil hregions
  have hfields := Record.fieldOr_saved hfits (Json.asList_saves (Field.saves.mono (Nat.zero_le 1)))
    Json.saved_nil hfields
  have htext : toJson ⟨name, pageDefault, preprocess, checks, regions, fields⟩ =
      .obj [("name", .str name), ("page_default", .ofNat pageDefault),
        ("preprocess", .ofOption Preprocess.toJson preprocess),
        ("checks", .ofList Check.toJson checks), ("regions", .ofList Region.toJson regions),
        ("fields", .ofList Field.toJson fields)] := by
    rw [toJson, Check.toJsonAll_eq]
    rfl
  refine ⟨?_, ?_⟩
  · rw [htext]
    show (Json.asNat (.ofNat pageDefault) >>= fun pageDefault =>
      (Json.ofOption Preprocess.toJson preprocess).asOption Preprocess.ofJson >>= fun preprocess =>
      (Json.ofList Check.toJson checks).asList Check.ofJson >>= fun checks =>
      (Json.ofList Region.toJson regions).asList Region.ofJson >>= fun regions =>
      (Json.ofList Field.toJson fields).asList Field.ofJson >>= fun fields =>
      .ok (⟨name, pageDefault, preprocess, checks, regions, fields⟩ : Pattern)) = _
    rw [hpage.again, hpreprocess.again, hchecks.again, hregions.again, hfields.again]
    rfl
  · rw [htext]
    refine Json.fits_obj.mpr ?_
    simp [Json.fits_str, hpage.fits, hpreprocess.fits, hchecks.fits, hregions.fits, hfields.fits]

/-! ## Numbers in the text of a pattern -/

theorem Region.floats_toMembers (r : Region) : Json.floatsOfMembers r.toMembers = r.rect.edges := by
  have hpage : r.page.toJson.floats = [] := by cases r.page <;> rfl
  have hkind : r.expression.kind.toJson.floats = [] := by cases r.expression.kind <;> rfl
  have htext (s? : Option String) : (Json.ofOptionString s?).floats = [] :=
    Json.floats_ofOption (fun _ => rfl) s?
  simp [toMembers, Rectangle.toMembers, Rectangle.edges, Json.floatsOfMembers, Json.floats, hpage,
    hkind, htext]

namespace Check

/-- The edges of the regions of conditions. -/
def edges (checks : List Check) : List Float :=
  (checks.filterMap region?).flatMap fun r => r.rect.edges

theorem edges_flatMap (f : Check → List Check) (checks : List Check) :
    edges (checks.flatMap f) = checks.flatMap fun c => edges (f c) := by
  rw [edges, List.filterMap_flatMap, List.flatMap_assoc]
  rfl

theorem floats_toJsonAll {checks : List Check} (h : ∀ c ∈ checks, c.toJson.floats = edges c.nodes) :
    (Json.arr (toJsonAll checks)).floats = edges (nodesOfAll checks) := by
  rw [toJsonAll_eq, Json.floats, Json.floatsOfAll_eq, List.flatMap_map, nodesOfAll_eq,
    edges_flatMap, List.flatMap_def, List.flatMap_def, List.map_congr_left h]

/-- The numbers with a point in a condition are the edges of its regions. -/
theorem floats_toJson (c : Check) : c.toJson.floats = edges c.nodes := by
  induction c using Check.induction with
  | leaf c hleaf =>
    rw [nodes_leaf hleaf]
    cases c with
    | region r =>
      simp [toJson, Json.floats, Json.floatsOfMembers, r.floats_toMembers, edges, region?]
    | tags includes excludes =>
      have hlist (names : List String) : (Json.ofList .str names).floats = [] := by
        rw [Json.floats_ofList]
        exact List.flatMap_eq_nil_iff.mpr fun _ _ => rfl
      simp [toJson, Json.floats, Json.floatsOfMembers, hlist, edges, region?]
    | dateCreated before after year =>
      have hdate (d? : Option Date) : (Json.ofOption Date.toJson d?).floats = [] :=
        Json.floats_ofOption (fun _ => rfl) d?
      have hyear : (Json.ofOption .int year).floats = [] := Json.floats_ofOption (fun _ => rfl) year
      simp [toJson, Json.floats, Json.floatsOfMembers, hdate, hyear, edges, region?]
    | allOf | anyOf | negation => cases hleaf
    | _ => rfl
  | allOf checks ih | anyOf checks ih =>
    have hchecks := floats_toJsonAll ih
    show ([] ++ ((Json.arr (toJsonAll checks)).floats ++ [])) = edges (nodesOfAll checks)
    rw [List.nil_append, List.append_nil, hchecks]
  | unset => rfl
  | negation c ih =>
    show ([] ++ (c.toJson.floats ++ [])) = edges c.nodes
    rw [List.nil_append, List.append_nil, ih]

end Check

theorem Pattern.floats_toJson (p : Pattern) :
    p.toJson.floats = (p.checkRegions ++ p.regions).flatMap fun r => r.rect.edges := by
  have hchecks : (Json.arr (Check.toJsonAll p.checks)).floats =
      p.checkRegions.flatMap fun r => r.rect.edges :=
    Check.floats_toJsonAll fun c _ => c.floats_toJson
  have hregions : (Json.ofList Region.toJson p.regions).floats =
      p.regions.flatMap fun r => r.rect.edges := by
    rw [Json.floats_ofList]
    exact congrArg (List.flatMap · p.regions) (funext fun r => r.floats_toMembers)
  have hpreprocess : (Json.ofOption Preprocess.toJson p.preprocess).floats = [] :=
    Json.floats_ofOption (fun | .forceOcr => rfl) p.preprocess
  have hfields : (Json.ofList Field.toJson p.fields).floats = [] := by
    rw [Json.floats_ofList]
    refine List.flatMap_eq_nil_iff.mpr fun f _ => ?_
    have hkind : f.kind.toJson.floats = [] := by cases f.kind <;> rfl
    simp [Field.toJson, Json.floats, Json.floatsOfMembers, hkind]
  rw [List.flatMap_append, ← hchecks, ← hregions]
  simp only [toJson, Json.floats, Json.floatsOfMembers, Json.ofNat, hpreprocess, hfields,
    List.nil_append, List.append_nil]

/-! ## Reading what was written -/

/-- A pattern that was read from a text is written so that it is read again, unless its text would
be nested too deep. Then it cannot be read any more. Its text is nested one level deeper at most
than the one that it was read from. Edges of rectangles have to be read from their texts. -/
theorem Pattern.read_written {t : String} {p : Pattern} (h : readAs Pattern.ofJson t = .ok p)
    (hedges : ∀ r ∈ p.checkRegions ++ p.regions, ∀ x ∈ r.rect.edges, x.isFinite = true →
      Json.ReadsBack x) :
    readAs Pattern.ofJson p.toJson.compact =
        (if p.toJson.depth < Json.nestingLimit then .ok p else .error .notJson) ∧
      ∃ j, Json.read? t = some j ∧ p.toJson.depth ≤ j.depth + 1 := by
  obtain ⟨j, hread, hdecode⟩ := readAs_ok h
  have hsaved := Pattern.saves j p (j.depth + 1) ⟨Json.read?_within hread, Nat.lt_succ_self _⟩
    hdecode
  have hwithin : p.toJson.Within Json.ReadsBack := by
    refine hsaved.fits.within.imp fun x hx hfinite => ?_
    rw [p.floats_toJson] at hx
    obtain ⟨r, hr, hx⟩ := List.mem_flatMap.mp hx
    exact hedges r hr x hx hfinite
  refine ⟨?_, j, hread, Nat.le_of_lt_succ hsaved.fits.depth⟩
  rw [readAs, Json.read?_compact hwithin]
  split_ifs with hdepth
  · simp only [decodeRead, hsaved.again]
    rfl
  · rfl

/-- The value of a pattern with a region, and with a check that leaves out its lists. -/
def billValue : Json :=
  .obj [("name", .str "Bill"), ("checks", .arr [.obj [("type", .str "tags")]]),
    ("regions", .arr [.obj [("x", .float 0.5), ("y", .float 0.5), ("x2", .float 595.28),
      ("y2", .int 842)]])]

def bill : Pattern :=
  { name := "Bill", checks := [.tags [] []], regions := [{ rect := ⟨0.5, 0.5, 595.28, 842⟩ }] }

theorem readAs_bill : readAs Pattern.ofJson billValue.compact = .ok bill := by
  have hwithin : billValue.Within Json.ReadsBack := by
    simp [billValue, Json.Within, Json.WithinMembers, Json.WithinAll, readsBack_half,
      readsBack_width, twoTo]
  rw [readAs, Json.read?_compact hwithin, if_pos (by decide)]
  rfl

theorem Pattern.read_written_bill : readAs Pattern.ofJson bill.toJson.compact = .ok bill := by
  have hedges : ∀ r ∈ bill.checkRegions ++ bill.regions, ∀ x ∈ r.rect.edges, x.isFinite = true →
      Json.ReadsBack x := by
    simp [bill, Pattern.checkRegions, Check.nodesOfAll, Check.nodes, Check.region?,
      Rectangle.edges, readsBack_half, readsBack_width, readsBack_height]
  rw [(Pattern.read_written readAs_bill hedges).1, if_pos (by decide)]

/-! ## Patterns that are lost -/

/-- A check of tags inside so many negations. -/
def nestedCheck : Nat → Check
  | 0 => .tags [] []
  | n + 1 => .negation (some (nestedCheck n))

/-- The value of this check that leaves out its lists. -/
def nestedValue : Nat → Json
  | 0 => .obj [("type", .str "tags")]
  | n + 1 => .obj [("type", .str "not"), ("check", nestedValue n)]

theorem depth_nestedValue (n : Nat) : (nestedValue n).depth = n + 1 := by
  induction n with
  | zero => rfl
  | succ n ih =>
    rw [nestedValue, Json.depth, Json.depthOfMembers, Json.depthOfMembers, Json.depthOfMembers, ih,
      Json.depth]
    omega

theorem depth_nestedCheck (n : Nat) : (nestedCheck n).toJson.depth = n + 2 := by
  induction n with
  | zero => rfl
  | succ n ih =>
    rw [nestedCheck, Check.toJson, Json.depth, Json.depthOfMembers, Json.depthOfMembers,
      Json.depthOfMembers, ih, Json.depth]
    omega

theorem within_nestedValue (n : Nat) : (nestedValue n).Within Json.ReadsBack := by
  induction n with
  | zero => exact ⟨trivial, trivial⟩
  | succ n ih => exact ⟨trivial, ih, trivial⟩

theorem within_nestedCheck (n : Nat) : (nestedCheck n).toJson.Within Json.ReadsBack := by
  induction n with
  | zero => exact ⟨trivial, trivial, trivial, trivial⟩
  | succ n ih => exact ⟨trivial, ih, trivial⟩

theorem ofJsonWithin_nestedValue {n b : Nat} (h : n < b) :
    Check.ofJsonWithin b (nestedValue n) = .ok (nestedCheck n) := by
  obtain ⟨b, rfl⟩ : ∃ k, b = k + 1 := ⟨b - 1, by omega⟩
  induction n generalizing b with
  | zero => rfl
  | succ n ih =>
    obtain ⟨b, rfl⟩ : ∃ k, b = k + 1 := ⟨b - 1, by omega⟩
    have hne : nestedValue n ≠ .null := by cases n <;> simp [nestedValue]
    show ((nestedValue n).asOption (Check.ofJsonWithin (b + 1)) >>= fun check? =>
      .ok (Check.negation check?)) = _
    rw [Json.asOption_of_ne hne, ih b (by omega)]
    rfl

/-- The pattern of such a check, and its value without what may be left out. -/
def nestedPattern (n : Nat) : Pattern := { name := "Deep", checks := [nestedCheck n] }

def nestedPatternValue (n : Nat) : Json :=
  .obj [("name", .str "Deep"), ("checks", .arr [nestedValue n])]

theorem readAs_nestedPatternValue {n : Nat} (h : n ≤ 124) :
    readAs Pattern.ofJson (nestedPatternValue n).compact = .ok (nestedPattern n) := by
  have hlimit : Json.nestingLimit = 128 := rfl
  have hwithin : (nestedPatternValue n).Within Json.ReadsBack :=
    ⟨trivial, ⟨within_nestedValue n, trivial⟩, trivial⟩
  have hdepth : (nestedPatternValue n).depth = n + 3 := by
    simp [nestedPatternValue, Json.depth, Json.depthOfMembers, Json.depthOfAll, depth_nestedValue]
  have hcheck : Check.ofJson (nestedValue n) = .ok (nestedCheck n) :=
    ofJsonWithin_nestedValue (by rw [depth_nestedValue]; omega)
  rw [readAs, Json.read?_compact hwithin, if_pos (by omega)]
  show (Pattern.ofJson (nestedPatternValue n)).mapError LoadFault.mistyped = _
  have hdecode : Pattern.ofJson (nestedPatternValue n) = .ok (nestedPattern n) := by
    show ((Json.arr [nestedValue n]).asList Check.ofJson >>= fun checks =>
      .ok ({ name := "Deep", checks } : Pattern)) = _
    rw [Json.asList, List.mapM_cons, hcheck]
    rfl
  rw [hdecode]
  rfl

/-- From 124 negations on, the pattern is lost. -/
theorem readAs_nestedPattern {n : Nat} (h : 124 ≤ n) :
    readAs Pattern.ofJson (nestedPattern n).toJson.compact = .error .notJson := by
  have hlimit : Json.nestingLimit = 128 := rfl
  have hzero : (Json.int 0).Within Json.ReadsBack := ⟨by decide, by decide⟩
  have hwithin : (nestedPattern n).toJson.Within Json.ReadsBack :=
    ⟨trivial, hzero, trivial, ⟨within_nestedCheck n, trivial⟩, trivial, trivial, trivial⟩
  have hdepth : (nestedPattern n).toJson.depth = n + 4 := by
    simp [nestedPattern, Pattern.toJson, Check.toJsonAll, Json.depth, Json.depthOfMembers,
      Json.depthOfAll, depth_nestedCheck, Json.ofNat, Json.ofOption, Json.ofList]
  rw [readAs, Json.read?_compact hwithin, if_neg (by omega), decodeRead]

/-- A pattern whose text is nested as deep as a text can be cannot be read from its own text. -/
theorem Pattern.lost_deep : readAs Pattern.ofJson (nestedPatternValue 124).compact =
      .ok (nestedPattern 124) ∧
    readAs Pattern.ofJson (nestedPattern 124).toJson.compact = .error .notJson :=
  ⟨readAs_nestedPatternValue (Nat.le_refl 124), readAs_nestedPattern (Nat.le_refl 124)⟩

end Dossier
