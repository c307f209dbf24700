import Dossier.Number.Digits
import Dossier.Pattern
import Dossier.Report.Section
import Dossier.Results
import Dossier.Text.Quoted

/-!
# Reports on evaluations

A report shows in words what a pattern gives for a document.

* `Check.describe` : a condition in one line;
* `Check.report` : the verdicts of a condition and its parts, a line each;
* `Evaluation.report` : the report on a pattern.
-/

namespace Dossier

/-- A list of quoted strings. -/
def quotedList (ss : List String) : String := "[" ++ ", ".intercalate (ss.map quoted) ++ "]"

/-- A value that may be missing. -/
def optionText {α : Type} (text : α → String) : Option α → String
  | some a => "Some(" ++ text a ++ ")"
  | none => "None"

def PageSelector.describe : PageSelector → String
  | exactPage index => "ExactPage(" ++ natString index ++ ")"
  | firstPage => "FirstPage"
  | lastPage => "LastPage"
  | firstMatch => "FirstMatch"
  | lastMatch => "LastMatch"

/-- A condition in one line, without its parts. -/
def Check.describe : Check → String
  | pageCount count => "num_pages = " ++ natString count
  | region r => "region " ++ quoted r.expression.active.text ++ " (" ++ r.page.describe ++ ")"
  | title pattern => "title ~ /" ++ pattern ++ "/"
  | correspondent name => "correspondent = " ++ quoted name
  | documentType name => "document_type = " ++ quoted name
  | storagePath name => "storage_path = " ++ quoted name
  | tags includes excludes => "tags +" ++ quotedList includes ++ " -" ++ quotedList excludes
  | dateCreated before after year =>
    "date_created before=" ++ optionText Date.isoString before ++
      " after=" ++ optionText Date.isoString after ++
      " year=" ++ optionText (fun y => String.ofList (intText y)) year
  | allOf _ => "and"
  | anyOf _ => "or"
  | negation _ => "not"

/-- The line for one condition. -/
def Check.reportLine (depth : Nat) (c : Check) (r : CheckResult) : String :=
  let mark := if r.passed then "✓ " else "✗ "
  let error :=
    match r.error with
    | some error => " - " ++ error
    | none => ""
  String.ofList (List.replicate (2 * depth) ' ') ++ mark ++ c.describe ++ error

mutual

/-- The lines for a condition and its parts, each part one level deeper. -/
def Check.report (depth : Nat) (r : CheckResult) : Check → List String
  | .allOf checks =>
    Check.reportLine depth (.allOf checks) r :: Check.reportAll (depth + 1) r.children checks
  | .anyOf checks =>
    Check.reportLine depth (.anyOf checks) r :: Check.reportAll (depth + 1) r.children checks
  | .negation none => [Check.reportLine depth (.negation none) r]
  | .negation (some check) =>
    Check.reportLine depth (.negation (some check)) r ::
      match r.children with
      | [] => []
      | child :: _ => check.report (depth + 1) child
  | check => [check.reportLine depth r]

/-- The lines for several conditions with their verdicts. -/
def Check.reportAll (depth : Nat) (rs : List CheckResult) : List Check → List String
  | [] => []
  | check :: checks =>
    match rs with
    | [] => []
    | r :: rs => check.report depth r ++ Check.reportAll depth rs checks

end

/-- The kept result of a region in words. -/
def regionSummary : Option RegionResult → String
  | none => "nothing retained"
  | some r =>
    match r.error with
    | some error => "error: " ++ error
    | none =>
      match r.values with
      | none => "no match"
      | some [] => "matched"
      | some values => ", ".intercalate (values.map fun v => v.1 ++ "=" ++ quoted v.2)

/-- The value of a field in words. -/
def fieldSummary : Option FieldResult → String
  | none => "-"
  | some r =>
    let dataType :=
      match r.dataType with
      | some name => " (" ++ name ++ ")"
      | none => ""
    let error :=
      match r.error with
      | some error => " " ++ error
      | none => ""
    r.value.getD "" ++ dataType ++ error

/-- The report on a pattern. -/
def Evaluation.report (p : Pattern) (e : Evaluation) : List String :=
  let verdict := if e.isMatch then "MATCH" else "NO MATCH"
  let regions := e.retained.mapIdx fun i r => "  [" ++ natString i ++ "] " ++ regionSummary r
  let fields := (p.fields.zip e.fields).map fun (f, r) => "  " ++ f.name ++ ": " ++ fieldSummary r
  ["Pattern: " ++ p.name ++ " - " ++ verdict] ++
    reportSection "Checks:" (Check.reportAll 1 e.checks p.checks) ++
    reportSection "Regions:" regions ++
    reportSection "Fields:" fields

end Dossier
