import Dossier.Entries

/-!
# Results

* `RegionResult` : what a region gives on one page;
* `CheckResult` : the verdict of a condition and of the conditions in it;
* `FieldResult` : the value of a field;
* `Evaluation` : all of it for a pattern and a document.
-/

namespace Dossier

/-- What a region gives on one page. -/
structure RegionResult where
  /-- The text in the area. -/
  text : String
  /-- The values of the named groups, if the expression matched. -/
  values : Option (List (String × String)) := none
  /-- Where the values stand in the text, in the order of the groups in the expression. -/
  positions : Option (List (Nat × Nat)) := none
  /-- What is wrong with the expression. -/
  error : Option String := none
  /-- Whether this page is the one that counts. -/
  isRetained : Bool := false
deriving DecidableEq

namespace RegionResult

/-- Whether the expression matched. -/
def hasMatch (r : RegionResult) : Bool := r.values.isSome

/-- Whether there is something of use on the page: a match in which some group captured text, if
the expression has groups. Groups that took no part in the match captured none. -/
def hasValue (r : RegionResult) (groups : List String) : Bool :=
  match r.values with
  | none => false
  | some values =>
    groups.isEmpty || groups.any fun name => (values.lookup name).any fun v => !v.isEmpty

end RegionResult

/-- The first of the results of a region that is kept. -/
def retainedOf (pages : List RegionResult) : Option RegionResult :=
  pages.find? RegionResult.isRetained

/-- The verdict of a condition. -/
inductive CheckResult where
  | mk (passed : Bool) (error : Option String) (children : List CheckResult)

namespace CheckResult

def passed : CheckResult → Bool
  | mk passed _ _ => passed

def error : CheckResult → Option String
  | mk _ error _ => error

/-- The verdicts of the conditions in the condition, in order. -/
def children : CheckResult → List CheckResult
  | mk _ _ children => children

/-- A verdict without children and error. -/
def ofBool (passed : Bool) : CheckResult := mk passed none []

/-- A failed verdict with an error. -/
def failed (error : String) : CheckResult := mk false (some error) []

mutual

/-- The first error of a verdict: its own, or else the first one in its children. -/
def firstError : CheckResult → Option String
  | mk _ (some error) _ => some error
  | mk _ none children => firstErrorOf children

/-- The first error of several verdicts. -/
def firstErrorOf : List CheckResult → Option String
  | [] => none
  | r :: rest =>
    match r.firstError with
    | some error => some error
    | none => firstErrorOf rest

end

end CheckResult

/-- The value of a field. -/
structure FieldResult where
  dataType : Option String := none
  value : Option String := none
  error : Option String := none
deriving DecidableEq

/-- What a pattern gives for a document. The lists are in the order of those of the pattern. -/
structure Evaluation where
  checks : List CheckResult
  /-- For each region one result for each page. -/
  regions : List (List RegionResult)
  fields : List (Option FieldResult)

namespace Evaluation

/-- Whether the document matches: there is a check, and all checks passed. -/
def isMatch (e : Evaluation) : Bool := !e.checks.isEmpty && e.checks.all CheckResult.passed

/-- The first error of the checks. -/
def firstCheckError (e : Evaluation) : Option String := CheckResult.firstErrorOf e.checks

/-- The kept result of each region. -/
def retained (e : Evaluation) : List (Option RegionResult) := e.regions.map retainedOf

end Evaluation

end Dossier
