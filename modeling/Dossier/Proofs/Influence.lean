import Dossier.Proofs.Check.Known

/-!
# What evaluation does not look at

The name of a pattern, what it says to editors and to the source of documents, and the texts of
expressions that do not count have no influence on what a pattern gives for a document. Nor have the
sizes of the pages, the time and address of the document, and the order of its tags.

* `Pattern.essential` : a pattern without what has no influence;
* `Document.Alike` : documents that differ only in what has no influence;
* `Check.evaluate_essential` : the verdict of a condition, by induction over the condition;
* `evaluate_of_essential` : patterns and documents that differ only in such things give the same.
-/

namespace Dossier

/-! ## What has an influence -/

/-- A region with the text that counts as its only one. -/
def Region.essential (r : Region) : Region :=
  { r with expression := r.expression.active.toRegionExpression }

namespace Check

mutual

/-- A condition whose regions have only the texts that count. -/
def essential : Check → Check
  | region r => region r.essential
  | allOf checks => allOf (essentialAll checks)
  | anyOf checks => anyOf (essentialAll checks)
  | negation (some check) => negation (some check.essential)
  | check => check

def essentialAll : List Check → List Check
  | [] => []
  | check :: rest => check.essential :: essentialAll rest

end

theorem essentialAll_eq (checks : List Check) : essentialAll checks = checks.map essential := by
  induction checks with
  | nil => rfl
  | cons check checks ih => rw [essentialAll, List.map_cons, ih]

theorem isLeaf_essential {check : Check} (h : check.isLeaf = true) :
    check.essential.isLeaf = true := by
  cases check <;> first | rfl | simp [isLeaf] at h

end Check

/-- A pattern without its name, its first page for editors, the work on documents that it asks for,
and the texts of expressions that do not count. -/
def Pattern.essential (p : Pattern) : Pattern where
  name := ""
  checks := p.checks.map Check.essential
  regions := p.regions.map Region.essential
  fields := p.fields

/-- Documents that differ only in the sizes of their pages, in the times when they were added, in
their addresses, and in the order and repetition of their tags. -/
structure Document.Alike (d e : Document) : Prop where
  id : d.id = e.id
  title : d.title = e.title
  correspondent : d.correspondent = e.correspondent
  documentType : d.documentType = e.documentType
  storagePath : d.storagePath = e.storagePath
  tags : ∀ tag, tag ∈ d.tags ↔ tag ∈ e.tags
  dateCreated : d.dateCreated = e.dateCreated
  runs : d.pages.map Page.runs = e.pages.map Page.runs

/-! ## Regions -/

theorem active_toRegionExpression (e : RegionExpression) :
    e.active.toRegionExpression.active = e.active := by
  obtain ⟨kind, _, _⟩ := e
  cases kind <;> rfl

theorem Region.compile_essential (r : Region) (sizeLimit : Nat) :
    r.essential.compile sizeLimit = r.compile sizeLimit := by
  unfold compile essential
  rw [active_toRegionExpression]

namespace Document.Alike

variable {d e : Document}

theorem refl (d : Document) : d.Alike d := ⟨rfl, rfl, rfl, rfl, rfl, fun _ => .rfl, rfl, rfl⟩

theorem hasTag_eq (h : d.Alike e) : d.hasTag = e.hasTag := by
  funext tag
  rw [Bool.eq_iff_iff, hasTag, hasTag, List.contains_iff_mem, List.contains_iff_mem]
  exact h.tags tag

theorem length_pages (h : d.Alike e) : d.pages.length = e.pages.length := by
  simpa using congrArg List.length h.runs

/-- The text in an area is made of the runs of a page alone. -/
theorem regionText_eq (h : d.Alike e) (rect : Rectangle) (inset : Float) :
    d.pages.map (·.regionText rect inset) = e.pages.map (·.regionText rect inset) := by
  have hruns : ∀ pages : List Page, pages.map (·.regionText rect inset) =
      (pages.map Page.runs).map fun runs => ({ runs } : Page).regionText rect inset := by
    intro pages
    rw [List.map_map]
    rfl
  rw [hruns, hruns, h.runs]

theorem results_essential (h : d.Alike e) (r : Region) (config : Config) :
    r.essential.results d config = r.results e config := by
  have htexts := h.regionText_eq r.rect config.layout.lineTopInset
  have hfound := congrArg (List.map (extract (r.compile config.expression.sizeLimit))) htexts
  rw [List.map_map, List.map_map] at hfound
  unfold Region.results
  rw [r.compile_essential]
  exact congrArg (retain · r.page) hfound

theorem metadata_eq (h : d.Alike e) : d.metadata = e.metadata := by
  simp only [metadata, h.id, h.title, h.correspondent, h.documentType, h.storagePath,
    h.dateCreated]

/-! ## Conditions -/

theorem check_essential (h : d.Alike e) (r : Region) (config : Config) :
    r.essential.check { document := d, config } = r.check { document := e, config } := by
  have hplain : ∀ (d : Document) (r : Region),
      ({ document := d, config } : CheckContext).resultsOf r = r.results d config :=
    fun _ _ => rfl
  unfold Region.check
  simp only [hplain, r.compile_essential, h.results_essential]

theorem leaf_essential (h : d.Alike e) {check : Check} (hleaf : check.isLeaf = true)
    (config : Config) : check.essential.leaf { document := d, config } =
      check.leaf { document := e, config } := by
  cases check with
  | region r => exact h.check_essential r config
  | allOf | anyOf | negation => simp [Check.isLeaf] at hleaf
  | _ =>
    simp only [Check.essential, Check.leaf, h.length_pages, h.title, h.correspondent,
      h.documentType, h.storagePath, h.hasTag_eq, h.dateCreated]

end Document.Alike

/-- The verdict of a condition depends on what is essential of the condition and the document. -/
theorem Check.evaluate_essential {d e : Document} (h : d.Alike e) (config : Config)
    (check : Check) : check.essential.evaluate { document := d, config } =
      check.evaluate { document := e, config } := by
  induction check using Check.induction with
  | leaf check hleaf =>
    rw [evaluate_leaf _ (isLeaf_essential hleaf), evaluate_leaf _ hleaf, h.leaf_essential hleaf]
  | allOf checks ih | anyOf checks ih =>
    rw [essential, evaluate, evaluate, evaluateAll_eq, evaluateAll_eq, essentialAll_eq,
      List.map_map]
    simp only [Function.comp_def, List.map_congr_left ih]
  | unset => rfl
  | negation check ih => rw [essential, evaluate, evaluate, ih]

/-! ## Patterns -/

/-- What is essential of a pattern gives for a document what the pattern gives for every document
like it. -/
theorem evaluate_essential {d e : Document} (h : d.Alike e) (v : Evaluator) (p : Pattern) :
    v.evaluate p.essential d = v.evaluate p e := by
  have hchecks : p.essential.checks.map
      (Check.evaluate { document := d, config := v.config }) =
        p.checks.map (Check.evaluate { document := e, config := v.config }) := by
    rw [Pattern.essential, List.map_map]
    exact List.map_congr_left fun check _ => check.evaluate_essential h v.config
  have hregions : (p.essential.regions.map fun r => r.results d v.config) =
      p.regions.map fun r => r.results e v.config := by
    rw [Pattern.essential, List.map_map]
    exact List.map_congr_left fun r _ => h.results_essential r v.config
  rw [evaluate_eq_apart, evaluate_eq_apart, hchecks, hregions, fieldContext, fieldContext,
    h.metadata_eq]
  rfl

/-- Patterns that have the same essential parts give the same for documents that are alike: the same
verdicts and errors, the same results of regions with the same pages kept, and the same values of
fields. -/
theorem evaluate_of_essential {p q : Pattern} {d e : Document} (hp : p.essential = q.essential)
    (hd : d.Alike e) (v : Evaluator) : v.evaluate p d = v.evaluate q e := by
  rw [← evaluate_essential (.refl d) v p, hp, evaluate_essential hd]

/-- Another regular expression beside the simple one that counts, in a region and in a condition,
and a document with another page size and its tags in another order. -/
theorem evaluate_of_essential_retyped :
    let total (other : Option String) : Region :=
      { rect := ⟨0, 0, 600, 800⟩
        expression := { simpleText := some "Total <n:int>", regexText := other } }
    let p (name : String) (other : Option String) : Pattern :=
      { name, checks := [.allOf [.tags ["paid"] [], .negation (some (.region (total other)))]],
        regions := [total none, total other]
        fields := [{ name := "Total", template := "\x7b\x7b n \x7d\x7d" }] }
    let runs : List TextRun := [⟨⟨10, 10, 90, 22⟩, "Total 12"⟩]
    let d : Document := { id := 7, tags := ["new", "paid"], pages := [{ runs }] }
    let e : Document :=
      { id := 7, tags := ["paid", "new", "paid"], pages := [{ width := 600, height := 800, runs }] }
    let v : Evaluator := {}
    (p "Paid" none).essential = (p "Bills" (some "(")).essential ∧ d.Alike e ∧
      v.evaluate (p "Paid" none) d = v.evaluate (p "Bills" (some "(")) e := by
  intro total p runs d e v
  have hp : (p "Paid" none).essential = (p "Bills" (some "(")).essential := rfl
  have hd : d.Alike e := ⟨rfl, rfl, rfl, rfl, rfl, by simp [d, e, or_comm], rfl, rfl⟩
  exact ⟨hp, hd, evaluate_of_essential hp hd v⟩

end Dossier
