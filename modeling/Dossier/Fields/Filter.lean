import Dossier.Calendar.Reader
import Dossier.Fields.DataType
import Dossier.Number.Amount

/-!
# Errors and filters of fields

* `FieldError` : why a field has no value, or a value that is not of its type;
* `parseMonetary`, `parseDate` : amounts and dates as they stand in documents;
* `Filter` : what templates can do to a value.
-/

namespace Dossier

/-- Why a field has no value, or none of its type. What the template engine has to say about a
template that it cannot read or render is in words of its own, and no part of an error here. -/
inductive FieldError where
  | undefinedVariable (name : Option String)
  | unknownFilter (name : String)
  | malformedTemplate
  | templateFailure
  | filter (name value : String)
  | conversion (type : DataType)
deriving DecidableEq, Repr

/-- The text that is shown for an error. -/
def FieldError.message : FieldError → String
  | undefinedVariable none => "undefined variable"
  | undefinedVariable (some name) => "undefined variable \"" ++ name ++ "\""
  | unknownFilter name => "unknown filter \"filter " ++ name ++ " is unknown\""
  | malformedTemplate => "template syntax error"
  | templateFailure => "template error"
  | filter name value => name ++ ": cannot parse \"" ++ value ++ "\""
  | conversion type => "invalid " ++ type.name ++ ": " ++ type.refusal

/-- Checks that a text is a value of a type. -/
def DataType.validate (t : DataType) (value : String) : Except FieldError Unit :=
  if t.accepts value then .ok () else .error (.conversion t)

/-- An amount in plain spelling: without blanks and separators of thousands, and with a point. If
both signs occur, the one in the third place from the end is the decimal sign; a comma alone is. -/
def plainAmount (value : List Char) : List Char :=
  let s := Text.dropBlanks value
  let toPoint := s.map fun c => if c = ',' then '.' else c
  if s.contains ',' && s.contains '.' then
    match s.reverse[2]? with
    | some '.' => s.filter (· != ',')
    | some ',' => (s.filter (· != '.')).map fun c => if c = ',' then '.' else c
    | _ => s
  else toPoint

/-- The amount of a text in either convention. -/
def parseMonetary (value : List Char) : Option Amount := Amount.read? (plainAmount value)

/-- The format of dates unless another one is given. -/
def defaultDateFormat : String := "%d/%m/%Y"

/-- The date of a text under a format, with blanks around it. -/
def parseDate (value format : List Char) : Option Date :=
  Calendar.readDate? format (Text.trim value)

/-- What templates can do to a value. -/
inductive Filter where
  /-- The plain spelling of an amount. -/
  | parseMonetary
  /-- The ISO spelling of a date that is written in a format. -/
  | parseDate (format : Option String)
  /-- The value without blanks at its ends. -/
  | trim
deriving DecidableEq, Repr

/-- Applies a filter to a value. -/
def Filter.apply (f : Filter) (value : String) : Except FieldError String :=
  match f with
  | parseMonetary =>
    match Dossier.parseMonetary value.toList with
    | some a => .ok (String.ofList a.text)
    | none => .error (.filter "parse_monetary" value)
  | parseDate format =>
    match Dossier.parseDate value.toList (format.getD defaultDateFormat).toList with
    | some d => .ok d.isoString
    | none => .error (.filter "parse_date" value)
  | trim => .ok (trimmed value)

end Dossier
