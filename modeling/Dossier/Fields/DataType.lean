import Dossier.Calendar.Reader
import Dossier.Json.Reader
import Dossier.Number.Amount
import Dossier.Number.FloatReader
import Dossier.Text.LetterCase

/-!
# Data types of fields

* `DataType` : what a field can hold;
* `DataType.accepts` : whether a text is a value of a type;
* `DataType.validate` : the same with the reason for a refusal.
-/

namespace Dossier

/-- What a field can hold. -/
inductive DataType where
  | string
  | url
  | date
  | boolean
  | integer
  | float
  | monetary
  | documentLink
deriving DecidableEq, Repr

namespace DataType

def name : DataType → String
  | string => "string"
  | url => "url"
  | date => "date"
  | boolean => "boolean"
  | integer => "integer"
  | float => "float"
  | monetary => "monetary"
  | documentLink => "documentlink"

/-- The type with a name. -/
def ofName? (name : String) : Option DataType :=
  match name with
  | "string" => some string
  | "url" => some url
  | "date" => some date
  | "boolean" => some boolean
  | "integer" => some integer
  | "float" => some float
  | "monetary" => some monetary
  | "documentlink" => some documentLink
  | _ => none

/-- Why a text is no value of a type. -/
def refusal : DataType → String
  | string => ""
  | url => "expected an http(s) URL"
  | date => "expected ISO YYYY-MM-DD"
  | boolean => "expected true, false, yes or no"
  | integer => "not an integer"
  | float => "not a number"
  | monetary => "not a decimal amount"
  | documentLink => "expected a JSON list of document ids"

/-- The text after a word that it starts with. -/
private def afterText? (word s : List Char) : Option (List Char) :=
  if word.isPrefixOf s then some (s.drop word.length) else none

/-- Whether a character ends the host of an address. -/
def endsHost (c : Char) : Bool := c == '/' || c == '?' || c == '#'

/-- Whether a text is a web address: a scheme, a host, and no blank anywhere. -/
def isUrl (s : List Char) : Bool :=
  match afterText? "http".toList s with
  | none => false
  | some rest =>
    match afterText? "://".toList ((afterText? ['s'] rest).getD rest) with
    | none => false
    | some rest =>
      match rest with
      | [] => false
      | c :: _ => !endsHost c && rest.all fun c => !Text.isBlank c

/-- Whether a text is an integer of 64 bits. -/
def isInteger (s : List Char) : Bool :=
  let (negative, digits) := splitSign s
  !digits.isEmpty && digits.all Char.isDigit &&
    decide (valueOf digits < twoTo 63 ∨ (negative ∧ valueOf digits = twoTo 63))

/-- Whether a JSON value is the number of a document. -/
private def isDocumentId : Json → Bool
  | .int n => decide (0 ≤ n)
  | _ => false

/-- Whether a text is a value of a type. -/
def accepts (t : DataType) (value : String) : Bool :=
  let s := value.toList
  match t with
  | string => true
  | url => isUrl s
  | date => (Calendar.readDate? "%Y-%m-%d".toList s).isSome
  | boolean => ["true", "false", "yes", "no"].contains (lowercased value)
  | integer => isInteger (Text.trim s)
  | float => (readFloat? (Text.trim s)).isSome
  | monetary => (Amount.read? (Text.trim s)).isSome
  | documentLink =>
    match Json.read? value with
    | some (.arr elements) => elements.all isDocumentId
    | _ => false

end DataType

end Dossier
