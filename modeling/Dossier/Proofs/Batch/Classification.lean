import Dossier.Proofs.Check.Known

/-!
# Classification of a document

A document is classified by taking in turn what it is to each pattern. What it is to one pattern has
nothing to do with the other patterns.

* `Outcome`, `Evaluator.outcome` : what a document is to a pattern;
* `Registered` : the results after some of the patterns, with `Registered.register` for one pattern
  more and `Registered.foldl` for all of them;
* `classify_outcomes` : the results of a document.
-/

namespace Dossier

/-- What a document is to a pattern. -/
inductive Outcome where
  /-- There is a broken condition in the pattern; the error is that of the first one. -/
  | broken (error : String)
  | matching
  | other
deriving DecidableEq, Repr

/-- The error of a broken pattern. -/
def Outcome.error? : Outcome → Option String
  | broken error => some error
  | _ => none

namespace Evaluator

/-- What a document is to a pattern. It matches if no condition in the pattern is broken, at any
depth, and there are checks, all of which passed. -/
def outcome (v : Evaluator) (d : Document) (p : Pattern) : Outcome :=
  match (Check.nodesOfAll p.checks).findSome? (Check.fault v.config) with
  | some error => .broken error
  | none =>
    if p.checks ≠ [] ∧
        ∀ c ∈ p.checks, (c.evaluate { document := d, config := v.config }).passed = true then
      .matching
    else .other

/-- The errors of the broken ones among patterns, in their order. -/
def errorsOf (v : Evaluator) (d : Document) (ps : List Pattern) : List PatternError :=
  ps.filterMap fun p => (v.outcome d p).error?.map fun error => ⟨⟨d.id, d.title⟩, p.name, error⟩

/-- The names of the matching ones among patterns, in their order. -/
def matchesOf (v : Evaluator) (d : Document) (ps : List Pattern) : List String :=
  (ps.filter fun p => v.outcome d p = .matching).map Pattern.name

end Evaluator

/-- The entry of a document with the names of patterns. There is none without a name. -/
def entryOf (id : Nat) (names : List String) : List (Nat × List String) :=
  if names = [] then [] else [(id, names)]

theorem appendNames_entryOf (id : Nat) (names : List String) (name : String) :
    Tally.appendNames id [name] (entryOf id names) = entryOf id (names ++ [name]) := by
  by_cases h : names = [] <;> simp [entryOf, Tally.appendNames, updateEntry, h]

section

variable {v : Evaluator} {d : Document} {ps : List Pattern} {p : Pattern} {t : Tally}

/-- A pattern adds what the document is to it. -/
theorem register_evaluate (t : Tally) (v : Evaluator) (d : Document) (p : Pattern) :
    Evaluator.register t d p (v.evaluate p d) =
      match v.outcome d p with
      | .broken error => t.addError ⟨d.id, d.title⟩ p.name error
      | .matching => t.addMatch d.id p.name
      | .other => t := by
  have hmatch : (v.evaluate p d).isMatch = true ↔ p.checks ≠ [] ∧
      ∀ c ∈ p.checks, (c.evaluate { document := d, config := v.config }).passed = true := by
    rw [evaluate_eq_apart, Evaluation.isMatch]
    simp
  unfold Evaluator.register Evaluator.outcome
  rw [firstCheckError_eq]
  cases (Check.nodesOfAll p.checks).findSome? (Check.fault v.config) with
  | some error => rfl
  | none =>
    simp only [hmatch]
    split <;> rfl

/-- The results of a document after some patterns. -/
structure Registered (v : Evaluator) (d : Document) (ps : List Pattern) (t : Tally) : Prop where
  errors : t.errors = v.errorsOf d ps
  matched : t.matched = entryOf d.id (v.matchesOf d ps)
  unmatched : t.unmatched = []

namespace Registered

theorem initial (v : Evaluator) (d : Document) : Registered v d [] {} := ⟨rfl, rfl, rfl⟩

/-- One pattern more. -/
theorem register (h : Registered v d ps t) (p : Pattern) :
    Registered v d (ps ++ [p]) (Evaluator.register t d p (v.evaluate p d)) := by
  rw [register_evaluate]
  have herrors : v.errorsOf d (ps ++ [p]) = v.errorsOf d ps ++ v.errorsOf d [p] :=
    List.filterMap_append
  have hmatches : v.matchesOf d (ps ++ [p]) = v.matchesOf d ps ++ v.matchesOf d [p] := by
    simp only [Evaluator.matchesOf, List.filter_append, List.map_append]
  cases ho : v.outcome d p with
  | broken error =>
    have herror : v.errorsOf d [p] = [⟨⟨d.id, d.title⟩, p.name, error⟩] := by
      simp [Evaluator.errorsOf, ho, Outcome.error?]
    have hnone : v.matchesOf d [p] = [] := by simp [Evaluator.matchesOf, ho]
    refine ⟨?_, ?_, h.unmatched⟩
    · rw [herrors, herror, ← h.errors]
      rfl
    · rw [hmatches, hnone, List.append_nil, ← h.matched]
      rfl
  | matching =>
    have hnone : v.errorsOf d [p] = [] := by simp [Evaluator.errorsOf, ho, Outcome.error?]
    have hname : v.matchesOf d [p] = [p.name] := by simp [Evaluator.matchesOf, ho]
    refine ⟨?_, ?_, h.unmatched⟩
    · rw [herrors, hnone, List.append_nil, ← h.errors]
      rfl
    · rw [hmatches, hname, ← appendNames_entryOf, ← h.matched]
      rfl
  | other =>
    have hnone : v.errorsOf d [p] = [] := by simp [Evaluator.errorsOf, ho, Outcome.error?]
    have hname : v.matchesOf d [p] = [] := by simp [Evaluator.matchesOf, ho]
    refine ⟨?_, ?_, h.unmatched⟩
    · rw [herrors, hnone, List.append_nil, h.errors]
    · rw [hmatches, hname, List.append_nil, h.matched]

theorem foldl {done : List Pattern} (h : Registered v d done t) (ps : List Pattern) :
    Registered v d (done ++ ps)
      (ps.foldl (fun t p => Evaluator.register t d p (v.evaluate p d)) t) := by
  induction ps generalizing done t with
  | nil => rwa [List.append_nil]
  | cons p ps ih =>
    have hall := ih (h.register p)
    rwa [List.append_assoc] at hall

end Registered

theorem classify_errors (v : Evaluator) (ps : List Pattern) (d : Document) :
    (v.classify ps d).errors = v.errorsOf d ps := by
  have h := (Registered.initial v d).foldl ps
  unfold Evaluator.classify
  simp only
  split <;> exact h.errors

theorem classify_matched (v : Evaluator) (ps : List Pattern) (d : Document) :
    (v.classify ps d).matched = entryOf d.id (v.matchesOf d ps) := by
  have h := (Registered.initial v d).foldl ps
  unfold Evaluator.classify
  simp only
  split <;> exact h.matched

theorem classify_unmatched (v : Evaluator) (ps : List Pattern) (d : Document) :
    (v.classify ps d).unmatched = if v.matchesOf d ps = [] then [⟨d.id, d.title⟩] else [] := by
  have h := (Registered.initial v d).foldl ps
  have hmatched := h.matched
  unfold Evaluator.classify
  simp only
  rw [hmatched, List.nil_append]
  by_cases hnames : v.matchesOf d ps = []
  · rw [if_pos hnames, entryOf, if_pos hnames]
    exact congrArg (· ++ _) h.unmatched
  · rw [if_neg hnames, entryOf, if_neg hnames]
    exact h.unmatched

end

/-- The results of a document. Each pattern is an error, a match or neither by itself: the errors
and the names of the matching patterns stand in the order of the patterns, the names under the
number of the document, and without any name the document is an unmatched one. -/
theorem classify_outcomes (v : Evaluator) (ps : List Pattern) (d : Document) :
    let t := v.classify ps d
    let label : DocumentLabel := ⟨d.id, d.title⟩
    let names := (ps.filter fun p => v.outcome d p = .matching).map Pattern.name
    t.errors = ps.filterMap (fun p =>
      (v.outcome d p).error?.map fun error => ⟨label, p.name, error⟩) ∧
    t.matched = (if names = [] then [] else [(d.id, names)]) ∧
    t.unmatched = if names = [] then [label] else [] :=
  ⟨classify_errors v ps d, classify_matched v ps d, classify_unmatched v ps d⟩

end Dossier
