import Dossier.Results
import Dossier.Tally
import Dossier.Json.Number
import Dossier.Wire.Load

/-!
# JSON form of results

* `toJson` and `ofJson` for the results of regions, checks and fields, for evaluations and for the
  results of many documents;
* `Tally.read` : the results of many documents that a text spells.
-/

namespace Dossier

/-- The JSON object of values with names. -/
def Json.ofValues (values : List (String × String)) : Json :=
  .obj (values.map fun v => (v.1, .str v.2))

/-- The JSON array of a place. -/
def Json.ofPlace (p : Nat × Nat) : Json := .arr [.ofNat p.1, .ofNat p.2]

def Json.asPlace : Json → Decoded (Nat × Nat)
  | .arr [a, b] => do return (← a.asNat, ← b.asNat)
  | .arr _ => .error .tooFewElements
  | _ => .error .invalidType

namespace RegionResult

def toJson (r : RegionResult) : Json :=
  .obj [("text", .str r.text), ("group_values", .ofOption .ofValues r.values),
    ("group_positions", .ofOption (.ofList .ofPlace) r.positions),
    ("error", .ofOptionString r.error), ("is_retained", .bool r.isRetained)]

def ofJson (j : Json) : Decoded RegionResult := do
  let r ← Record.of j
  let text ← r.field 0 "text" Json.asString
  let values ← r.optional 1 "group_values" (Json.asEntries Json.asString)
  let positions ← r.optional 2 "group_positions" (Json.asList Json.asPlace)
  let error ← r.optional 3 "error" Json.asString
  let isRetained ← r.fieldOr 4 "is_retained" false Json.asBool
  r.closed 5
  return { text, values, positions, error, isRetained }

end RegionResult

namespace CheckResult

mutual

/-- The children are left out when there are none. -/
def toJson : CheckResult → Json
  | mk passed error [] => .obj [("passed", .bool passed), ("error", .ofOptionString error)]
  | mk passed error (child :: children) =>
    .obj [("passed", .bool passed), ("error", .ofOptionString error),
      ("children", .arr (toJson child :: toJsonAll children))]

def toJsonAll : List CheckResult → List Json
  | [] => []
  | r :: rest => toJson r :: toJsonAll rest

end

/-- The verdict of a JSON value, in which verdicts are nested less deep than a bound. -/
def ofJsonWithin : Nat → Json → Decoded CheckResult
  | 0, _ => .error .invalidValue
  | bound + 1, j => do
    let r ← Record.of j
    let passed ← r.field 0 "passed" Json.asBool
    let error ← r.optional 1 "error" Json.asString
    let children ← r.fieldOr 2 "children" [] (Json.asList (ofJsonWithin bound))
    r.closed 3
    return mk passed error children

/-- The verdict of a JSON value. -/
def ofJson (j : Json) : Decoded CheckResult := ofJsonWithin (j.depth + 1) j

end CheckResult

namespace FieldResult

def toJson (r : FieldResult) : Json :=
  .obj [("data_type", .ofOptionString r.dataType), ("value", .ofOptionString r.value),
    ("error", .ofOptionString r.error)]

def ofJson (j : Json) : Decoded FieldResult := do
  let r ← Record.of j
  let dataType ← r.fieldOr 0 "data_type" none (Json.asOption Json.asString)
  let value ← r.optional 1 "value" Json.asString
  let error ← r.optional 2 "error" Json.asString
  r.closed 3
  return { dataType, value, error }

end FieldResult

namespace Evaluation

def toJson (e : Evaluation) : Json :=
  .obj [("checks", .arr (CheckResult.toJsonAll e.checks)),
    ("regions", .ofList (.ofList RegionResult.toJson) e.regions),
    ("fields", .ofList (.ofOption FieldResult.toJson) e.fields)]

def ofJson (j : Json) : Decoded Evaluation := do
  let r ← Record.of j
  let checks ← r.field 0 "checks" (Json.asList CheckResult.ofJson)
  let regions ← r.field 1 "regions" (Json.asList (Json.asList RegionResult.ofJson))
  let fields ← r.field 2 "fields" (Json.asList (Json.asOption FieldResult.ofJson))
  r.closed 3
  return { checks, regions, fields }

end Evaluation

namespace DocumentLabel

def toJson (d : DocumentLabel) : Json := .obj [("id", .ofNat d.id), ("title", .str d.title)]

def ofJson (j : Json) : Decoded DocumentLabel := do
  let r ← Record.of j
  let id ← r.field 0 "id" Json.asNat
  let title ← r.field 1 "title" Json.asString
  r.closed 2
  return ⟨id, title⟩

end DocumentLabel

namespace PatternError

def toJson (e : PatternError) : Json :=
  .obj [("document", e.document.toJson), ("pattern_name", .str e.patternName),
    ("error", .str e.error)]

def ofJson (j : Json) : Decoded PatternError := do
  let r ← Record.of j
  let document ← r.field 0 "document" DocumentLabel.ofJson
  let patternName ← r.field 1 "pattern_name" Json.asString
  let error ← r.field 2 "error" Json.asString
  r.closed 3
  return { document, patternName, error }

end PatternError

namespace Tally

/-- The number of a document as it stands for the key of a member. -/
def idOfKey (key : String) : Decoded Nat :=
  match Json.readNumber key.toList with
  | some (j, []) => j.asNat
  | _ => .error .invalidType

def asMatched : Json → Decoded { m : List (Nat × List String) // Increasing m }
  | .obj members => do
    let pairs ← members.mapM fun m => do
      return (← idOfKey m.1, ← m.2.asList Json.asString)
    return ⟨entriesOf pairs, increasing_entriesOf pairs⟩
  | _ => .error .invalidType

def toJson (t : Tally) : Json :=
  .obj [("errors", .ofList PatternError.toJson t.errors),
    ("matched", .obj (t.matched.map fun m => (natString m.1, .ofList .str m.2))),
    ("unmatched", .ofList DocumentLabel.toJson t.unmatched)]

def ofJson (j : Json) : Decoded Tally := do
  let r ← Record.of j
  let errors ← r.fieldOr 0 "errors" [] (Json.asList PatternError.ofJson)
  let ⟨matched, increasing⟩ ← r.fieldOr 1 "matched" ⟨[], increasing_noNames⟩ asMatched
  let unmatched ← r.fieldOr 2 "unmatched" [] (Json.asList DocumentLabel.ofJson)
  r.closed 3
  return { errors, matched, increasing, unmatched }

/-- The results of many documents that a text spells. The number of a document is read from its key
as it is written. No other member of these results has a name of digits, so that it makes no
difference to the others how such a key is read. -/
def read (text : String) : Except LoadFault Tally :=
  decodeRead ofJson (Json.readWith? Json.readNumberKey text)

end Tally

end Dossier
