import Dossier.Region.Extract

/-!
# Evaluation of checks

* `CheckContext` : a document with the results of regions that are known so far;
* `Check.evaluate` : the verdict of a condition, with the verdicts of its parts.
-/

namespace Dossier

/-- What conditions look at: a document under a configuration, and results of regions. -/
structure CheckContext where
  document : Document
  config : Config
  known : List (Region × List RegionResult) := []

namespace CheckContext

/-- The known results of a region, which may be written differently. -/
def cached? (ctx : CheckContext) (r : Region) : Option (List RegionResult) :=
  (ctx.known.find? fun k => k.1.same r).map Prod.snd

/-- The results of a region, known or not. -/
def resultsOf (ctx : CheckContext) (r : Region) : List RegionResult :=
  (ctx.cached? r).getD (r.results ctx.document ctx.config)

/-- Makes the results of a region known. -/
def addRegion (ctx : CheckContext) (r : Region) : CheckContext :=
  if (ctx.cached? r).isSome then ctx
  else { ctx with known := ctx.known ++ [(r, r.results ctx.document ctx.config)] }

/-- Makes the results of several regions known. -/
def addRegions (ctx : CheckContext) (rs : List Region) : CheckContext := rs.foldl addRegion ctx

end CheckContext

/-- The verdict for an error or its absence. -/
private def verdictOfError : Option String → CheckResult
  | some error => .failed error
  | none => .ofBool false

/-- The verdict of a condition on a region: the kept page has a value. A broken expression is an
error also when no page is kept. -/
def Region.check (r : Region) (ctx : CheckContext) : CheckResult :=
  let compiled := r.compile ctx.config.expression.sizeLimit
  let results := ctx.resultsOf r
  let groups :=
    match compiled with
    | .ok c => c.groupNames
    | .error _ => []
  match retainedOf results with
  | some kept =>
    match kept.error with
    | some error => .failed error
    | none => .ofBool (kept.hasValue groups)
  | none =>
    match results with
    | first :: _ => verdictOfError first.error
    | [] =>
      match compiled with
      | .ok _ => .ofBool false
      | .error e => .failed e.message

/-- The verdict of a condition made of several ones. If it failed it carries their first error. -/
def CheckResult.composite (passed : Bool) (children : List CheckResult) : CheckResult :=
  .mk passed (if passed then none else firstErrorOf children) children

/-- The verdict of a negation. An error in the condition is an error of its negation. -/
def CheckResult.negated (child : CheckResult) : CheckResult :=
  match child.firstError with
  | some error => .mk false (some error) [child]
  | none => .mk (!child.passed) none [child]

/-- Whether a date lies between bounds, as far as they are set. Without any bound there need be no
date. -/
def dateFits (created before after : Option Date) (year : Option Int) : Bool :=
  if before.isNone && after.isNone && year.isNone then true
  else match created with
    | none => false
    | some d =>
      before.all (fun b => d.isBefore b) && after.all (fun a => a.isBefore d) &&
        year.all (fun y => d.year == y)

/-- The verdict of a condition without parts. -/
def Check.leaf (ctx : CheckContext) : Check → CheckResult
  | pageCount count => .ofBool (ctx.document.pages.length == count)
  | region r => r.check ctx
  | title pattern =>
    match compilePattern pattern ctx.config.expression.sizeLimit with
    | .ok tree => .ofBool (tree.isMatch ctx.document.title)
    | .error e => .failed e.message
  | correspondent name => .ofBool (ctx.document.correspondent == some name)
  | documentType name => .ofBool (ctx.document.documentType == some name)
  | storagePath name => .ofBool (ctx.document.storagePath == some name)
  | tags includes excludes =>
    .ofBool (includes.all ctx.document.hasTag && !excludes.any ctx.document.hasTag)
  | dateCreated before after year =>
    .ofBool (dateFits ctx.document.dateCreated before after year)
  | _ => .ofBool false

mutual

/-- The verdict of a condition and of all conditions in it. -/
def Check.evaluate (ctx : CheckContext) : Check → CheckResult
  | .allOf checks =>
    let children := Check.evaluateAll ctx checks
    .composite (children.all CheckResult.passed) children
  | .anyOf checks =>
    let children := Check.evaluateAll ctx checks
    .composite (children.any CheckResult.passed) children
  | .negation none => .ofBool false
  | .negation (some check) => (check.evaluate ctx).negated
  | .pageCount count => Check.leaf ctx (.pageCount count)
  | .region r => Check.leaf ctx (.region r)
  | .title pattern => Check.leaf ctx (.title pattern)
  | .correspondent name => Check.leaf ctx (.correspondent name)
  | .documentType name => Check.leaf ctx (.documentType name)
  | .storagePath name => Check.leaf ctx (.storagePath name)
  | .tags includes excludes => Check.leaf ctx (.tags includes excludes)
  | .dateCreated before after year => Check.leaf ctx (.dateCreated before after year)

/-- The verdicts of several conditions. -/
def Check.evaluateAll (ctx : CheckContext) : List Check → List CheckResult
  | [] => []
  | check :: rest => check.evaluate ctx :: Check.evaluateAll ctx rest

end

end Dossier
