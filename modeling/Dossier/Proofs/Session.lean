import Dossier.Session
import Mathlib.Data.List.Induction

/-!
# What a session goes by

A session answers as a new evaluator would, one with the configuration and the catalog that were set
last and for the document that was set last. Changes that fail leave no trace, and it does not
matter whether a configuration is set before a catalog or after it.

* `Session.lastSet?` : the last value that changes in turn have set;
* `Session.change_cases` : all that a change can do;
* `Session.Latest` : a session that goes by the last values;
* `Session.latest_run` : a session after any changes is one of these;
* `Session.run_latest` : evaluation, failed changes, and changes in another order.
-/

namespace Dossier.Session

/-! ## What changes set -/

/-- The document that a change sets, if it succeeds. -/
def Change.document? : Change → Option Document
  | .document text => (readAs Document.ofJson text).toOption
  | .config _ => none
  | .catalog _ => none

/-- The configuration that a change sets, if it succeeds. -/
def Change.config? : Change → Option Config
  | .document _ => none
  | .config value => (readConfig value).toOption
  | .catalog _ => none

/-- The catalog that a change sets, if it succeeds. -/
def Change.catalog? : Change → Option Catalog
  | .document _ => none
  | .config _ => none
  | .catalog text => (readAs Catalog.ofJson text).toOption

/-- The last value that changes in turn have set, if any of them has set one. -/
def lastSet? {α : Type} (set? : Change → Option α) (changes : List Change) : Option α :=
  (changes.filterMap set?).getLast?

theorem lastSet?_append {α : Type} (set? : Change → Option α) (changes : List Change)
    (c : Change) : lastSet? set? (changes ++ [c]) = (set? c).or (lastSet? set? changes) := by
  unfold lastSet?
  rw [List.filterMap_append, List.getLast?_append]
  cases h : set? c with
  | none => rw [List.filterMap_cons_none h]; rfl
  | some a => rw [List.filterMap_cons_some h]; rfl

/-- A new evaluator with the configuration and the catalog that were set last. -/
def latestEvaluator (changes : List Change) : Evaluator :=
  { config := (lastSet? Change.config? changes).getD {}
    catalog := lastSet? Change.catalog? changes }

/-- The document that was set last, or else the one at the start. -/
def latestDocument (d : Document) (changes : List Change) : Document :=
  (lastSet? Change.document? changes).getD d

variable {d : Document} {s : Session} {changes : List Change}

/-! ## One change -/

theorem rebuilt_eq (s : Session) (config : Config) :
    s.rebuilt config = { config, catalog := s.catalog } := by
  unfold rebuilt
  cases s.catalog <;> rfl

/-- A change sets its value, or it fails and would have set nothing. Whether it fails does not
depend on the session. -/
theorem change_cases (s : Session) (c : Change) :
    (∃ e, s.change c = .error e ∧
      c.document? = none ∧ c.config? = none ∧ c.catalog? = none) ∨
    (∃ document, s.change c = .ok { s with document } ∧
      c.document? = some document ∧ c.config? = none ∧ c.catalog? = none) ∨
    (∃ config, s.change c = .ok { s with evaluator := { config, catalog := s.catalog } } ∧
      c.document? = none ∧ c.config? = some config ∧ c.catalog? = none) ∨
    (∃ catalog, s.change c = .ok { s with
        evaluator := { config := s.evaluator.config, catalog := some catalog }
        catalog := some catalog } ∧
      c.document? = none ∧ c.config? = none ∧ c.catalog? = some catalog) := by
  cases c with
  | document text =>
    cases h : readAs Document.ofJson text with
    | error e =>
      have hdocument : (Change.document text).document? = none := by rw [Change.document?, h]; rfl
      exact .inl ⟨e, by rw [change, h]; rfl, hdocument, rfl, rfl⟩
    | ok document =>
      have hdocument : (Change.document text).document? = some document := by
        rw [Change.document?, h]; rfl
      exact .inr (.inl ⟨document, by rw [change, h]; rfl, hdocument, rfl, rfl⟩)
  | config value =>
    cases h : readConfig value with
    | error e =>
      have hconfig : (Change.config value).config? = none := by rw [Change.config?, h]; rfl
      exact .inl ⟨e, by rw [change, h]; rfl, rfl, hconfig, rfl⟩
    | ok config =>
      have hconfig : (Change.config value).config? = some config := by rw [Change.config?, h]; rfl
      have hchange : s.change (.config value) = .ok { s with evaluator := s.rebuilt config } := by
        rw [change, h]; rfl
      rw [rebuilt_eq] at hchange
      exact .inr (.inr (.inl ⟨config, hchange, rfl, hconfig, rfl⟩))
  | catalog text =>
    cases h : readAs Catalog.ofJson text with
    | error e =>
      have hcatalog : (Change.catalog text).catalog? = none := by rw [Change.catalog?, h]; rfl
      exact .inl ⟨e, by rw [change, h]; rfl, rfl, rfl, hcatalog⟩
    | ok catalog =>
      have hcatalog : (Change.catalog text).catalog? = some catalog := by
        rw [Change.catalog?, h]; rfl
      exact .inr (.inr (.inr ⟨catalog, by rw [change, h]; rfl, rfl, rfl, hcatalog⟩))

theorem next_of_ok {t : Session} {c : Change} (h : s.change c = .ok t) : s.next c = t := by
  rw [next, h]

theorem next_of_error {e : LoadFault} {c : Change} (h : s.change c = .error e) : s.next c = s := by
  rw [next, h]

/-! ## Changes in turn -/

/-- A session that goes by the last values that changes have set. -/
structure Latest (d : Document) (changes : List Change) (s : Session) : Prop where
  document : s.document = latestDocument d changes
  evaluator : s.evaluator = latestEvaluator changes
  catalog : s.catalog = lastSet? Change.catalog? changes

theorem Latest.start (d : Document) : Latest d [] { document := d } := ⟨rfl, rfl, rfl⟩

/-- One more change keeps a session by the last values. -/
theorem Latest.next (h : Latest d changes s) (c : Change) :
    Latest d (changes ++ [c]) (s.next c) := by
  obtain ⟨hdocument, hevaluator, hcatalog⟩ := h
  rcases change_cases s c with ⟨e, hchange, hd, hc, hk⟩ | ⟨document, hchange, hd, hc, hk⟩ |
    ⟨config, hchange, hd, hc, hk⟩ | ⟨catalog, hchange, hd, hc, hk⟩
  · rw [next_of_error hchange]
    constructor
    · rw [latestDocument, lastSet?_append, hd]
      exact hdocument
    · rw [latestEvaluator, lastSet?_append, lastSet?_append, hc, hk]
      exact hevaluator
    · rw [lastSet?_append, hk]
      exact hcatalog
  · rw [next_of_ok hchange]
    constructor
    · rw [latestDocument, lastSet?_append, hd]
      rfl
    · rw [latestEvaluator, lastSet?_append, lastSet?_append, hc, hk]
      exact hevaluator
    · rw [lastSet?_append, hk]
      exact hcatalog
  · -- The new evaluator is given the catalog that the session has kept.
    rw [next_of_ok hchange]
    constructor
    · rw [latestDocument, lastSet?_append, hd]
      exact hdocument
    · rw [latestEvaluator, lastSet?_append, lastSet?_append, hc, hk, hcatalog]
      rfl
    · rw [lastSet?_append, hk]
      exact hcatalog
  · -- It is given the configuration of the evaluator before it.
    rw [next_of_ok hchange]
    constructor
    · rw [latestDocument, lastSet?_append, hd]
      exact hdocument
    · rw [latestEvaluator, lastSet?_append, lastSet?_append, hc, hk, hevaluator]
      rfl
    · rw [lastSet?_append, hk]
      rfl

/-- From the start on, a session goes by the last values. -/
theorem latest_run (d : Document) (changes : List Change) :
    Latest d changes (({ document := d } : Session).run changes) := by
  induction changes using List.reverseRecOn with
  | nil => exact Latest.start d
  | append_singleton changes c ih =>
    rw [run, List.foldl_append]
    exact ih.next c

/-- A configuration and a catalog that are set one right after the other can be set the other way
round. -/
theorem next_config_catalog (s : Session) (value : Json) (text : String) :
    (s.next (.config value)).next (.catalog text) =
      (s.next (.catalog text)).next (.config value) := by
  cases hconfig : readConfig value with
  | error e =>
    have hfails (t : Session) : t.next (.config value) = t :=
      next_of_error (e := e) (by rw [change, hconfig]; rfl)
    rw [hfails, hfails]
  | ok config =>
    have hset (t : Session) :
        t.next (.config value) = { t with evaluator := { config, catalog := t.catalog } } := by
      refine next_of_ok ?_
      rw [change, hconfig, ← rebuilt_eq]
      rfl
    cases hcatalog : readAs Catalog.ofJson text with
    | error e =>
      have hfails (t : Session) : t.next (.catalog text) = t :=
        next_of_error (e := e) (by rw [change, hcatalog]; rfl)
      rw [hfails, hfails]
    | ok catalog =>
      have hset' (t : Session) : t.next (.catalog text) =
          { t with
            evaluator := { config := t.evaluator.config, catalog := some catalog }
            catalog := some catalog } :=
        next_of_ok (by rw [change, hcatalog]; rfl)
      rw [hset, hset', hset', hset]

/-- What a session answers after any changes. A pattern is evaluated by a new evaluator with the
configuration and the catalog that were set last, for the document that was set last. A change that
fails can be left out, and a configuration and a catalog set one right after the other can change
places: the session is the same, hence all later answers are. -/
theorem run_latest (d : Document) (changes : List Change) :
    (∀ p, (({ document := d } : Session).run changes).evaluate p =
      (latestEvaluator changes).evaluate p (latestDocument d changes)) ∧
    (∀ c e later, (({ document := d } : Session).run changes).change c = .error e →
      ({ document := d } : Session).run (changes ++ c :: later) =
        ({ document := d } : Session).run (changes ++ later)) ∧
    ∀ value text later,
      ({ document := d } : Session).run (changes ++ .config value :: .catalog text :: later) =
        ({ document := d } : Session).run (changes ++ .catalog text :: .config value :: later) := by
  refine ⟨fun p => ?_, fun c e later hfails => ?_, fun value text later => ?_⟩
  · have hlatest := latest_run d changes
    rw [evaluate, hlatest.evaluator, hlatest.document]
  · have hnext := next_of_error hfails
    unfold run at hnext ⊢
    rw [List.foldl_append, List.foldl_append, List.foldl_cons, hnext]
  · unfold run
    rw [List.foldl_append, List.foldl_append, List.foldl_cons, List.foldl_cons, List.foldl_cons,
      List.foldl_cons, next_config_catalog]

/-- A configuration without workers fails after a catalog and a configuration that were set. -/
theorem run_latest_invalid :
    let d : Document := { id := 7, tags := ["inbox"] }
    let strict : Json := .obj [("processing", .obj [("required_tags", .arr [.str "paid"])])]
    let idle : Json := .obj [("processing", .obj [("jobs", .int 0)])]
    let changes : List Change := [.catalog "{}", .config strict]
    let s := ({ document := d } : Session).run changes
    s.change (.config idle) = .error (.unusable .noJobs) ∧ s.accepts = false ∧
      (∀ p, s.evaluate p = ({ config := { processing := { requiredTags := ["paid"] } }
                              catalog := some {} } : Evaluator).evaluate p d) ∧
      ({ document := d } : Session).run (changes ++ [.config idle]) = s := by
  intro d strict idle changes s
  have hfails : s.change (.config idle) = .error (.unusable .noJobs) := by rfl
  have hevaluator : latestEvaluator changes =
      { config := { processing := { requiredTags := ["paid"] } }, catalog := some {} } := by rfl
  obtain ⟨hevaluate, hleft, -⟩ := run_latest d changes
  rw [hevaluator] at hevaluate
  have hrun := hleft (.config idle) (.unusable .noJobs) [] hfails
  rw [List.append_nil] at hrun
  exact ⟨hfails, by rfl, hevaluate, hrun⟩

end Dossier.Session
