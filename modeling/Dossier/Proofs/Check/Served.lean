import Dossier.Proofs.Check.Known
import Dossier.Proofs.Check.Places
import Dossier.Proofs.Wire.Document

/-!
# Regions that are made known

Before its checks are evaluated, the regions of a pattern and those of the conditions in its checks
are made known. Of regions that are the same only the first one is, and then the checks never take
the results of a region that is not known.

* `Region.same_self` : a region with finite edges is the same as itself;
* `CheckContext.Knows` : what a context knows after regions have been made known;
* `Pattern.HasRegion` : the regions of a pattern (`Pattern.hasRegion_iff`);
* `Check.evaluateKnown` : verdicts from known results alone (`evaluateKnown_eq_some_iff`);
* `evaluate_of_pages` : they do not depend on what is on the pages;
* `regions_served` : what is known of a pattern, and its verdicts from that.
-/

namespace Dossier

/-! ## Regions that are the same -/

theorem beq_self_of_isFinite {x : Float} (h : x.isFinite = true) : (x == x) = true := by
  obtain ⟨r, hr, -⟩ := isFinite_iff_rank.mp h
  exact beq_iff_rank.mpr ⟨r, hr, hr⟩

namespace Region

/-- A region with finite edges is the same as itself. -/
theorem same_self {r : Region} (h : ∀ x ∈ r.rect.edges, x.isFinite = true) :
    r.same r = true := by
  simp only [Rectangle.edges, List.mem_cons, List.not_mem_nil, or_false, forall_eq_or_imp,
    forall_eq] at h
  obtain ⟨hx, hy, hx2, hy2⟩ := h
  simp [same, Rectangle.same, beq_self_of_isFinite, hx, hy, hx2, hy2]

end Region

/-! ## What is known -/

namespace CheckContext

variable {ctx : CheckContext} {r : Region} {rs : List Region}

theorem isSome_cached? : (ctx.cached? r).isSome = true ↔ ∃ k ∈ ctx.known, k.1.same r = true := by
  rw [cached?, Option.isSome_map, List.find?_isSome]

/-- What a context knows after regions have been made known. -/
structure Knows (ctx : CheckContext) (rs : List Region) : Prop where
  /-- No two known regions are the same. -/
  apart : ctx.known.Pairwise fun a b => a.1.same b.1 = false
  /-- Nothing else is known. -/
  given : ∀ k ∈ ctx.known, k.1 ∈ rs
  /-- For each of the regions one that is the same is known. -/
  served : ∀ r ∈ rs, ∃ k ∈ ctx.known, k.1.same r = true

/-- One more region is made known. -/
theorem Knows.addRegion (h : ctx.Knows rs) (hself : r.same r = true) :
    (ctx.addRegion r).Knows (rs ++ [r]) := by
  unfold CheckContext.addRegion
  split
  · rename_i hknown
    refine ⟨h.apart, fun k hk => List.mem_append_left _ (h.given k hk), fun r' hr' => ?_⟩
    rcases List.mem_append.mp hr' with hr' | hr'
    · exact h.served r' hr'
    · obtain rfl := List.mem_singleton.mp hr'
      exact isSome_cached?.mp hknown
  · rename_i hnew
    refine ⟨?_, fun k hk => ?_, fun r' hr' => ?_⟩
    · refine List.pairwise_append.mpr ⟨h.apart, List.pairwise_singleton _ _, fun k hk l hl => ?_⟩
      obtain rfl := List.mem_singleton.mp hl
      exact Bool.eq_false_iff.mpr fun hsame => hnew (isSome_cached?.mpr ⟨k, hk, hsame⟩)
    · rcases List.mem_append.mp hk with hk | hk
      · exact List.mem_append_left _ (h.given k hk)
      · obtain rfl := List.mem_singleton.mp hk
        exact List.mem_append_right _ (List.mem_singleton_self r)
    · rcases List.mem_append.mp hr' with hr' | hr'
      · obtain ⟨k, hk, hsame⟩ := h.served r' hr'
        exact ⟨k, List.mem_append_left _ hk, hsame⟩
      · obtain rfl := List.mem_singleton.mp hr'
        exact ⟨_, List.mem_append_right _ (List.mem_singleton_self _), hself⟩

/-- Several regions are made known, one after the other. -/
theorem Knows.addRegions (h : ctx.Knows rs) {more : List Region}
    (hself : ∀ r ∈ more, r.same r = true) : (ctx.addRegions more).Knows (rs ++ more) := by
  unfold CheckContext.addRegions
  induction more generalizing ctx rs with
  | nil => rwa [List.append_nil]
  | cons r more ih =>
    obtain ⟨hr, hmore⟩ := List.forall_mem_cons.mp hself
    have hall := ih (h.addRegion hr) hmore
    rwa [List.append_assoc] at hall

theorem knows_after (d : Document) (config : Config) (hself : ∀ r ∈ rs, r.same r = true) :
    (after d config rs).Knows rs := by
  have hnone : Knows { document := d, config } [] := ⟨.nil, by simp, by simp⟩
  exact hnone.addRegions hself

end CheckContext

/-- The regions of a pattern: those that it lists, and those of the conditions to which some way
leads in its checks. -/
def Pattern.HasRegion (p : Pattern) (r : Region) : Prop :=
  r ∈ p.regions ∨ ∃ check ∈ p.checks, ∃ way, check.at? way = some (.region r)

/-- The regions that are gathered from the checks are all regions of conditions in them. -/
theorem Pattern.hasRegion_iff {p : Pattern} {r : Region} :
    p.HasRegion r ↔ r ∈ p.regions ++ p.checkRegions := by
  have hregion : ∀ c : Check, c.region? = some r ↔ c = .region r := by
    intro c
    cases c <;> simp [Check.region?]
  rw [HasRegion, List.mem_append, checkRegions, List.mem_filterMap, Check.nodesOfAll_eq]
  simp only [hregion, exists_eq_right, List.mem_flatMap, Check.mem_nodes]

/-! ## Verdicts from known results -/

mutual

/-- The verdict of a condition from known results alone. There is none if it takes the results of a
region that is not known. -/
def Check.evaluateKnown (ctx : CheckContext) : Check → Option CheckResult
  | .allOf checks => do
    let children ← Check.evaluateKnownAll ctx checks
    return .composite (children.all CheckResult.passed) children
  | .anyOf checks => do
    let children ← Check.evaluateKnownAll ctx checks
    return .composite (children.any CheckResult.passed) children
  | .negation none => some (.ofBool false)
  | .negation (some check) => do return (← check.evaluateKnown ctx).negated
  | .region r => if (ctx.cached? r).isSome then some (r.check ctx) else none
  | check => some (check.leaf ctx)

def Check.evaluateKnownAll (ctx : CheckContext) : List Check → Option (List CheckResult)
  | [] => some []
  | check :: rest => do
    let first ← check.evaluateKnown ctx
    return first :: (← Check.evaluateKnownAll ctx rest)

end

namespace Check

variable {ctx : CheckContext} {check : Check}

/-- The regions of the conditions in a condition are known. -/
def Known (ctx : CheckContext) (check : Check) : Prop :=
  ∀ r, .region r ∈ check.nodes → (ctx.cached? r).isSome = true

theorem known_iff_parts (h : check.isLeaf = false) :
    check.Known ctx ↔ ∀ part ∈ check.parts, part.Known ctx := by
  have hself : ∀ r, (.region r : Check) ≠ check := by
    rintro r rfl
    cases h
  unfold Known
  rw [nodes_eq]
  simp only [List.mem_cons, hself, false_or, List.mem_flatMap]
  exact ⟨fun hall part hpart r hr => hall r ⟨part, hpart, hr⟩,
    fun hall r ⟨part, hpart, hr⟩ => hall part hpart r hr⟩

theorem evaluateKnownAll_eq_some_iff {checks : List Check}
    (h : ∀ c ∈ checks, ∀ v, c.evaluateKnown ctx = some v ↔ c.Known ctx ∧ v = c.evaluate ctx)
    {vs : List CheckResult} :
    evaluateKnownAll ctx checks = some vs ↔
      (∀ c ∈ checks, c.Known ctx) ∧ vs = checks.map (evaluate ctx) := by
  induction checks generalizing vs with
  | nil => simp [evaluateKnownAll, eq_comm]
  | cons c checks ih =>
    obtain ⟨hc, hchecks⟩ := List.forall_mem_cons.mp h
    rw [evaluateKnownAll]
    simp only [Option.bind_eq_bind, Option.bind_eq_some_iff, hc, ih hchecks, Option.pure_def,
      Option.some.injEq, List.forall_mem_cons, List.map_cons]
    constructor
    · rintro ⟨_, ⟨hknown, rfl⟩, _, ⟨hall, rfl⟩, rfl⟩
      exact ⟨⟨hknown, hall⟩, rfl⟩
    · rintro ⟨⟨hknown, hall⟩, rfl⟩
      exact ⟨_, ⟨hknown, rfl⟩, _, ⟨hall, rfl⟩, rfl⟩

/-- Known results are enough for the verdict if all regions in the condition are known, and only
then. -/
theorem evaluateKnown_eq_some_iff {v : CheckResult} :
    check.evaluateKnown ctx = some v ↔ check.Known ctx ∧ v = check.evaluate ctx := by
  induction check using Check.induction generalizing v with
  | leaf check h =>
    rw [check.evaluate_leaf ctx h, Known, check.nodes_leaf h]
    cases check with
    | region r =>
      rw [evaluateKnown]
      cases hknown : (ctx.cached? r).isSome <;> simp [hknown, leaf, eq_comm (b := v)]
    | allOf _ | anyOf _ | negation _ => cases h
    | _ => simp [evaluateKnown, eq_comm (b := v)]
  | allOf checks ih | anyOf checks ih =>
    rw [known_iff_parts rfl, evaluateKnown, Option.bind_eq_bind, Option.bind_eq_some_iff]
    simp only [evaluateKnownAll_eq_some_iff fun c hc v => ih c hc, and_assoc, exists_and_left,
      exists_eq_left, evaluate, evaluateAll_eq, parts, Option.pure_def, Option.some.injEq,
      eq_comm (b := v)]
  | unset =>
    rw [known_iff_parts rfl]
    simp [evaluateKnown, evaluate, parts, eq_comm]
  | negation check ih =>
    rw [known_iff_parts rfl, evaluateKnown, Option.bind_eq_bind, Option.bind_eq_some_iff]
    simp only [ih, and_assoc, exists_and_left, exists_eq_left, evaluate, parts,
      List.forall_mem_singleton, Option.pure_def, Option.some.injEq, eq_comm (b := v)]

/-- Verdicts from known results do not depend on what is on the pages. -/
theorem evaluate_of_pages (h : check.Known ctx) {pages : List Page}
    (hcount : pages.length = ctx.document.pages.length) :
    check.evaluate { ctx with document := { ctx.document with pages } } = check.evaluate ctx := by
  refine evaluate_congr fun c hc => ?_
  cases c with
  | region r =>
    have hresults : CheckContext.resultsOf { ctx with document := { ctx.document with pages } } r =
        ctx.resultsOf r := by
      obtain ⟨results, hresults⟩ := Option.isSome_iff_exists.mp (h r hc)
      unfold CheckContext.resultsOf
      rw [hresults]
      show ((ctx.cached? r).getD _) = _
      rw [hresults]
      rfl
    simp only [leaf, Region.check, hresults]
  | pageCount count => simp only [leaf, hcount]
  | _ => rfl

end Check

/-- All conditions in the checks of a pattern find their regions known. -/
theorem Pattern.known_after (p : Pattern) (d : Document) (config : Config)
    (hself : ∀ r ∈ p.regions ++ p.checkRegions, r.same r = true) {check : Check}
    (hcheck : check ∈ p.checks) :
    check.Known (CheckContext.after d config (p.regions ++ p.checkRegions)) := by
  intro r hr
  obtain ⟨way, hway⟩ := Check.mem_nodes.mp hr
  have hregion : p.HasRegion r := .inr ⟨check, hcheck, way, hway⟩
  exact CheckContext.isSome_cached?.mpr
    ((CheckContext.knows_after d config hself).served r (Pattern.hasRegion_iff.mp hregion))

/-- Of the regions of a pattern, which have finite edges, no two known ones are the same, and for each
one that is the same is known, with its results. The listed regions and the conditions at any depth
in the checks take what is known: the verdicts are those from known results alone, and they would be
the same with anything else on the pages. -/
theorem regions_served (v : Evaluator) (p : Pattern) (d : Document)
    (hfinite : ∀ r, p.HasRegion r → ∀ x ∈ r.rect.edges, x.isFinite = true) :
    let ctx := CheckContext.after d v.config (p.regions ++ p.checkRegions)
    (ctx.known.Pairwise fun a b => a.1.same b.1 = false) ∧
    (∀ k ∈ ctx.known, p.HasRegion k.1 ∧ k.2 = k.1.results d v.config) ∧
    (∀ r, p.HasRegion r → ∃ k ∈ ctx.known, k.1.same r = true) ∧
    p.regions.map ctx.cached? = (v.evaluate p d).regions.map some ∧
    p.checks.map (Check.evaluateKnown ctx) = (v.evaluate p d).checks.map some ∧
    ∀ check ∈ p.checks, ∀ pages : List Page, pages.length = d.pages.length →
      check.evaluate { ctx with document := { d with pages } } = check.evaluate ctx := by
  intro ctx
  have hself : ∀ r ∈ p.regions ++ p.checkRegions, r.same r = true :=
    fun r hr => Region.same_self (hfinite r (Pattern.hasRegion_iff.mpr hr))
  have hknows : ctx.Knows (p.regions ++ p.checkRegions) :=
    CheckContext.knows_after d v.config hself
  have hdocument : ctx.document = d := CheckContext.after_document d v.config _
  have hconfig : ctx.config = v.config := CheckContext.after_config d v.config _
  refine ⟨hknows.apart, fun k hk => ⟨Pattern.hasRegion_iff.mpr (hknows.given k hk), ?_⟩,
    fun r hr => hknows.served r (Pattern.hasRegion_iff.mp hr), ?_, ?_,
    fun check hcheck pages hcount => ?_⟩
  · rw [← hdocument, ← hconfig]
    exact CheckContext.proper_after d v.config _ k hk
  · show p.regions.map ctx.cached? = (p.regions.map ctx.resultsOf).map some
    rw [List.map_map]
    refine List.map_congr_left fun r hr => ?_
    obtain ⟨results, hresults⟩ := Option.isSome_iff_exists.mp
      (CheckContext.isSome_cached?.mpr (hknows.served r (List.mem_append_left _ hr)))
    simp [CheckContext.resultsOf, hresults]
  · show _ = (Check.evaluateAll ctx p.checks).map some
    rw [Check.evaluateAll_eq, List.map_map]
    exact List.map_congr_left fun check hcheck =>
      Check.evaluateKnown_eq_some_iff.mpr ⟨p.known_after d v.config hself hcheck, rfl⟩
  · have hpages : pages.length = ctx.document.pages.length := by rw [hdocument, hcount]
    have hsame := Check.evaluate_of_pages (p.known_after d v.config hself hcheck) hpages
    rwa [CheckContext.after_document] at hsame

/-- A region that is listed, the same one with an edge at minus zero below a negation that does not
decide, and another one. Two of the three are known. -/
theorem regions_served_zero :
    let r : Region := { rect := ⟨0, 0, 100, 50⟩, expression := { simpleText := some "Invoice" } }
    let again : Region := { r with rect := ⟨-0.0, 0, 100, 50⟩ }
    let other : Region := { r with page := .firstPage }
    let p : Pattern :=
      { name := "Invoices"
        checks := [.anyOf [.pageCount 0, .negation (some (.region again))], .region other]
        regions := [r] }
    let ctx := CheckContext.after { id := 1 } {} (p.regions ++ p.checkRegions)
    (∀ r, p.HasRegion r → ∀ x ∈ r.rect.edges, x.isFinite = true) ∧ ctx.known.length = 2 ∧
      p.checks.map (Check.evaluateKnown ctx) =
        (Evaluator.evaluate {} p { id := 1 }).checks.map some := by
  intro r again other p ctx
  have hfinite : ∀ r, p.HasRegion r → ∀ x ∈ r.rect.edges, x.isFinite = true := by
    intro r hr
    have hall : ∀ r ∈ p.regions ++ p.checkRegions,
        (r.rect.edges.all fun x => x.isFinite) = true := by
      decide +kernel
    exact List.all_eq_true.mp (hall r (Pattern.hasRegion_iff.mp hr))
  exact ⟨hfinite, by decide +kernel, (regions_served {} p { id := 1 } hfinite).2.2.2.2.1⟩

end Dossier
