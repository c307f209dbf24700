import Dossier.Proofs.Calendar.Moment
import Dossier.Proofs.Wire.Written
import Dossier.Wire.Document

/-!
# Documents that are written again

All that is decoded as a document is written so that it is decoded again. What it may leave out is
written one level deeper at most, and a document is nested no deeper than five levels.

* `Document.saves` : documents;
* `Document.numbers` : the numbers with a point in a document;
* `Document.survives` : documents that were read from a text.
-/

namespace Dossier

variable {bound : Nat}

/-! ## Dates and moments -/

theorem Date.saves : Saves ofJson toJson 0 := by
  refine Json.asText_saves fun _ d _ => ?_
  rw [isoString, String.toList_ofList, Calendar.readJsonDate?_iso]

theorem Moment.saves : Saves ofJson toJson 0 :=
  Json.asText_saves fun _ _ h => read_text (proper_of_read h)

/-! ## Rectangles, text runs and pages -/

/-- The edges of a rectangle. -/
def Rectangle.edges (r : Rectangle) : List Float := [r.x, r.y, r.x2, r.y2]

theorem asFloat_saves : Saves Json.asFloat Json.float 0 := by
  intro j x bound hj h
  cases j with
  | float x =>
    cases h
    exact ⟨rfl, hj⟩
  | int n =>
    cases h
    exact ⟨rfl, isFinite_ofInt hj.within.1 hj.within.2, hj.depth⟩
  | null | bool b | str s | arr es | obj ms => cases h

theorem Rectangle.saved {r : Record} {rect : Rectangle} (hr : ∀ v ∈ r.values, v.Fits bound)
    (h : ofRecord r = .ok rect) : ∀ m ∈ rect.toMembers, m.2.Fits bound := by
  obtain ⟨x, hx, h⟩ := Decoded.bind_eq_ok.mp h
  obtain ⟨y, hy, h⟩ := Decoded.bind_eq_ok.mp h
  obtain ⟨x2, hx2, h⟩ := Decoded.bind_eq_ok.mp h
  obtain ⟨y2, hy2, h⟩ := Decoded.bind_eq_ok.mp h
  cases h
  have hedge (place : Nat) (name : String) (x : Float)
      (h : r.field place name Json.asFloat = .ok x) : (Json.float x).Fits bound :=
    (Record.field_saved hr asFloat_saves h).fits
  simp [toMembers, hedge _ _ _ hx, hedge _ _ _ hy, hedge _ _ _ hx2, hedge _ _ _ hy2]

theorem TextRun.saves : Saves ofJson toJson 0 := by
  intro j run bound hj h
  obtain ⟨r, hr, h⟩ := Decoded.bind_eq_ok.mp h
  obtain ⟨text, -, h⟩ := Decoded.bind_eq_ok.mp h
  obtain ⟨rect, hrect, h⟩ := Decoded.bind_eq_ok.mp h
  cases h
  obtain ⟨b, rfl, hfits⟩ := Record.fits_of hj (Record.of_ofObject hr)
  refine ⟨rfl, Json.fits_obj.mpr (List.forall_mem_append.mpr ⟨Rectangle.saved hfits hrect, ?_⟩)⟩
  simp [Json.fits_str]

theorem Page.saves : Saves ofJson toJson 1 := by
  intro j page bound hj h
  obtain ⟨r, hr, h⟩ := Decoded.bind_eq_ok.mp h
  obtain ⟨width, hwidth, h⟩ := Decoded.bind_eq_ok.mp h
  obtain ⟨height, hheight, h⟩ := Decoded.bind_eq_ok.mp h
  obtain ⟨runs, hruns, h⟩ := Decoded.bind_eq_ok.mp h
  obtain ⟨_, -, h⟩ := Decoded.bind_eq_ok.mp h
  cases h
  obtain ⟨b, rfl, hfits⟩ := Record.fits_of hj hr
  have hzero : Saved Json.asFloat Json.float (b + 1 + 1) 0 := ⟨rfl, Json.fits_float (by decide)⟩
  have hwidth := Record.fieldOr_saved hfits (asFloat_saves.mono (Nat.zero_le 1)) hzero hwidth
  have hheight := Record.fieldOr_saved hfits (asFloat_saves.mono (Nat.zero_le 1)) hzero hheight
  have hruns := Record.fieldOr_saved hfits
    (Json.asList_saves (TextRun.saves.mono (Nat.zero_le 1))) Json.saved_nil hruns
  refine ⟨?_, Json.fits_obj.mpr ?_⟩
  · show ((Json.ofList TextRun.toJson runs).asList TextRun.ofJson >>= fun runs =>
      .ok (⟨width, height, runs⟩ : Page)) = _
    rw [hruns.again]
    rfl
  · simp [hwidth.fits, hheight.fits, hruns.fits]

/-! ## Documents -/

namespace Document

/-- What a document leaves out is decoded as if it were null. -/
theorem ofJson_toJson (d : Document) : ofJson d.toJson = do
    let id ← Json.asNat (.ofNat d.id)
    let correspondent ← (Json.ofOptionString d.correspondent).asOption Json.asString
    let documentType ← (Json.ofOptionString d.documentType).asOption Json.asString
    let storagePath ← (Json.ofOptionString d.storagePath).asOption Json.asString
    let tags ← (Json.ofList .str d.tags).asList Json.asString
    let dateCreated ← (Json.ofOption Date.toJson d.dateCreated).asOption Date.ofJson
    let added ← (Json.ofOption Moment.toJson d.added).asOption Moment.ofJson
    let url ← (Json.ofOptionString d.url).asOption Json.asString
    let pages ← (Json.ofList Page.toJson d.pages).asList Page.ofJson
    return ⟨id, d.title, correspondent, documentType, storagePath, tags, dateCreated, added, url,
      pages⟩ := by
  obtain ⟨id, title, correspondent, documentType, storagePath, tags, dateCreated, added, url,
    pages⟩ := d
  cases added <;> cases url <;> rfl

/-- The values of the members of a document. -/
theorem forall_members (d : Document) {p : Json → Prop} (hid : p (.ofNat d.id))
    (htext : ∀ s : String, p (.str s)) (hnull : p .null) (htags : p (.ofList .str d.tags))
    (hpages : p (.ofList Page.toJson d.pages)) : ∃ ms, d.toJson = .obj ms ∧ ∀ m ∈ ms, p m.2 := by
  have hoption (s? : Option String) : p (.ofOptionString s?) := by
    cases s? with
    | none => exact hnull
    | some s => exact htext s
  have hdate (d? : Option Date) : p (.ofOption Date.toJson d?) := by
    cases d? with
    | none => exact hnull
    | some d => exact htext d.isoString
  obtain ⟨id, title, correspondent, documentType, storagePath, tags, dateCreated, added, url,
    pages⟩ := d
  refine ⟨_, rfl, ?_⟩
  cases added <;> cases url <;>
    simp [hid, htext, hoption, hdate, htags, hpages, Moment.toJson]

theorem saves : Saves ofJson toJson 1 := by
  intro j d bound hj h
  obtain ⟨r, hr, h⟩ := Decoded.bind_eq_ok.mp h
  obtain ⟨id, hid, h⟩ := Decoded.bind_eq_ok.mp h
  obtain ⟨title, -, h⟩ := Decoded.bind_eq_ok.mp h
  obtain ⟨correspondent, hcorrespondent, h⟩ := Decoded.bind_eq_ok.mp h
  obtain ⟨documentType, htype, h⟩ := Decoded.bind_eq_ok.mp h
  obtain ⟨storagePath, hpath, h⟩ := Decoded.bind_eq_ok.mp h
  obtain ⟨tags, htags, h⟩ := Decoded.bind_eq_ok.mp h
  obtain ⟨dateCreated, hcreated, h⟩ := Decoded.bind_eq_ok.mp h
  obtain ⟨added, hadded, h⟩ := Decoded.bind_eq_ok.mp h
  obtain ⟨url, hurl, h⟩ := Decoded.bind_eq_ok.mp h
  obtain ⟨pages, hpages, h⟩ := Decoded.bind_eq_ok.mp h
  obtain ⟨_, -, h⟩ := Decoded.bind_eq_ok.mp h
  cases h
  obtain ⟨b, rfl, hfits⟩ := Record.fits_of hj hr
  have htext : Saves (Json.asOption Json.asString) Json.ofOptionString 1 :=
    (Json.asOption_saves Json.asString_saves fun s => Json.noConfusion).mono (Nat.zero_le 1)
  have hnone : Saved (Json.asOption Json.asString) Json.ofOptionString (b + 1 + 1) none :=
    ⟨rfl, Json.fits_null⟩
  have hid := Record.field_saved hfits (Json.asNat_saves.mono (Nat.zero_le 1)) hid
  have hcorrespondent := Record.fieldOr_saved hfits htext hnone hcorrespondent
  have htype := Record.fieldOr_saved hfits htext hnone htype
  have hpath := Record.fieldOr_saved hfits htext hnone hpath
  have htags := Record.fieldOr_saved hfits
    (Json.asList_saves (Json.asString_saves.mono (Nat.zero_le 1))) Json.saved_nil htags
  have hcreated := Record.fieldOr_saved hfits
    ((Json.asOption_saves Date.saves fun d => Json.noConfusion).mono (Nat.zero_le 1))
    ⟨rfl, Json.fits_null⟩ hcreated
  have hadded := Record.fieldOr_saved hfits
    ((Json.asOption_saves Moment.saves fun m => Json.noConfusion).mono (Nat.zero_le 1))
    ⟨rfl, Json.fits_null⟩ hadded
  have hurl := Record.fieldOr_saved hfits htext hnone hurl
  have hpages := Record.fieldOr_saved hfits (Json.asList_saves Page.saves) Json.saved_nil hpages
  refine ⟨?_, ?_⟩
  · rw [ofJson_toJson]
    simp only [hid.again, hcorrespondent.again, htype.again, hpath.again, htags.again,
      hcreated.again, hadded.again, hurl.again, hpages.again]
    rfl
  · obtain ⟨ms, hms, hall⟩ := forall_members (p := Json.Fits (b + 2))
      ⟨id, title, correspondent, documentType, storagePath, tags, dateCreated, added, url, pages⟩
      hid.fits Json.fits_str Json.fits_null htags.fits hpages.fits
    rw [hms]
    exact Json.fits_obj.mpr hall

/-- A document is nested no deeper than its pages with their text runs. -/
theorem depth_toJson (d : Document) : d.toJson.depth < 6 := by
  have hrun (run : TextRun) : run.toJson.depth < 2 := by
    refine Json.depth_obj_lt.mpr ?_
    simp [Rectangle.toMembers, Json.depth]
  have hpage (p : Page) : p.toJson.depth < 4 := by
    have hruns := Json.depth_ofList_lt fun run (_ : run ∈ p.runs) => hrun run
    refine Json.depth_obj_lt.mpr (List.forall_mem_cons.mpr ⟨Nat.succ_pos _, ?_⟩)
    exact List.forall_mem_cons.mpr ⟨Nat.succ_pos _, List.forall_mem_singleton.mpr hruns⟩
  have htags : (Json.ofList .str d.tags).depth < 5 :=
    Json.depth_ofList_lt fun _ _ => Nat.succ_pos _
  have hpages := Json.depth_ofList_lt fun p (_ : p ∈ d.pages) => hpage p
  obtain ⟨ms, hms, hall⟩ := d.forall_members (p := fun j => j.depth < 5) (Nat.succ_pos _)
    (fun _ => Nat.succ_pos _) (Nat.succ_pos _) htags hpages
  rw [hms]
  exact Json.depth_obj_lt.mpr hall

/-- The sizes of the pages and the edges of the text runs. -/
def numbers (d : Document) : List Float :=
  d.pages.flatMap fun p => p.width :: p.height :: p.runs.flatMap fun run => run.rect.edges

theorem floats_toJson (d : Document) : d.toJson.floats = d.numbers := by
  have hrun (run : TextRun) : run.toJson.floats = run.rect.edges := by
    simp [TextRun.toJson, Rectangle.toMembers, Rectangle.edges, Json.floats, Json.floatsOfMembers]
  have hpage (p : Page) : p.toJson.floats =
      p.width :: p.height :: p.runs.flatMap fun run => run.rect.edges := by
    simp [Page.toJson, Json.floats, Json.floatsOfMembers, Json.floats_ofList, hrun]
  have hpages : (Json.ofList Page.toJson d.pages).floats = d.numbers := by
    rw [Json.floats_ofList]
    exact congrArg (List.flatMap · d.pages) (funext hpage)
  have htext (s? : Option String) : (Json.ofOptionString s?).floats = [] :=
    Json.floats_ofOption (fun _ => rfl) s?
  have hdate (d? : Option Date) : (Json.ofOption Date.toJson d?).floats = [] :=
    Json.floats_ofOption (fun _ => rfl) d?
  have htags : (Json.ofList .str d.tags).floats = [] := by
    rw [Json.floats_ofList]
    exact List.flatMap_eq_nil_iff.mpr fun _ _ => rfl
  rw [← hpages]
  obtain ⟨id, title, correspondent, documentType, storagePath, tags, dateCreated, added, url,
    pages⟩ := d
  cases added <;> cases url <;>
    simp [toJson, Json.floats, Json.floatsOfMembers, Json.ofNat, Moment.toJson, htext, hdate, htags]

/-- A document that was read from a text survives, if its numbers are read from their texts. -/
theorem survives {t : String} {d : Document} (h : readAs ofJson t = .ok d)
    (hnumbers : ∀ x ∈ d.numbers, x.isFinite = true → Json.ReadsBack x) :
    Survives (readAs ofJson) toJson d :=
  saves.survives Json.readString_quote h (fun _ => Nat.lt_trans d.depth_toJson (by decide))
    (by rwa [d.floats_toJson])

end Document

end Dossier
