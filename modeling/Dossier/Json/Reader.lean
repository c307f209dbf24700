import Dossier.Json.Number
import Dossier.Json.Text

/-!
# Reading JSON texts

* `read?` : the value of a text that holds one JSON value and blanks around it;
* `readWith?` : the same, with keys that are read in another way than strings;
* `nestingLimit` : how deep arrays and objects may be nested.
-/

namespace Dossier.Json

/-- Whether a character is a blank of JSON. -/
def isJsonBlank (c : Char) : Bool := c == ' ' || c == '\n' || c == '\t' || c == '\r'

/-- Passes over blanks. -/
def skipJsonBlanks (s : List Char) : List Char := s.dropWhile isJsonBlank

/-- Arrays and objects are nested less deep than this. -/
def nestingLimit : Nat := 128

/-- The text after a word that it starts with. -/
def afterWord? (word s : List Char) : Option (List Char) :=
  if word.isPrefixOf s then some (s.drop word.length) else none

section Keys

-- How a key is read whose opening quotation mark has been passed.
variable (readKey : List Char → Option (List Char × List Char))

mutual

/-- Reads a value, with so many further levels of nesting allowed. The fuel bounds the number of
steps; each step but the last of an array or object takes a character. -/
def readValue : Nat → Nat → List Char → Option (Json × List Char)
  | 0, _, _ => none
  | fuel + 1, depth, s =>
    match skipJsonBlanks s with
    | '"' :: rest => (readString rest).map fun (text, rest) => (str (String.ofList text), rest)
    | '[' :: rest =>
      if depth = 0 then none
      else match skipJsonBlanks rest with
        | ']' :: rest => some (arr [], rest)
        | rest =>
          (readElements fuel (depth - 1) rest).map fun (elements, rest) => (arr elements, rest)
    | '{' :: rest =>
      if depth = 0 then none
      else match skipJsonBlanks rest with
        | '}' :: rest => some (obj [], rest)
        | rest => (readMembers fuel (depth - 1) rest).map fun (members, rest) => (obj members, rest)
    | 'n' :: rest => (afterWord? ['u', 'l', 'l'] rest).map fun rest => (null, rest)
    | 't' :: rest => (afterWord? ['r', 'u', 'e'] rest).map fun rest => (bool true, rest)
    | 'f' :: rest => (afterWord? ['a', 'l', 's', 'e'] rest).map fun rest => (bool false, rest)
    | s => readNumber s

/-- Reads the elements of an array up to its closing bracket. -/
def readElements : Nat → Nat → List Char → Option (List Json × List Char)
  | 0, _, _ => none
  | fuel + 1, depth, s =>
    match readValue fuel depth s with
    | none => none
    | some (first, rest) =>
      match skipJsonBlanks rest with
      | ',' :: rest =>
        (readElements fuel depth rest).map fun (others, rest) => (first :: others, rest)
      | ']' :: rest => some ([first], rest)
      | _ => none

/-- Reads the members of an object up to its closing brace. -/
def readMembers : Nat → Nat → List Char → Option (List (String × Json) × List Char)
  | 0, _, _ => none
  | fuel + 1, depth, s =>
    match skipJsonBlanks s with
    | '"' :: rest =>
      match readKey rest with
      | none => none
      | some (key, rest) =>
        match skipJsonBlanks rest with
        | ':' :: rest =>
          match readValue fuel depth rest with
          | none => none
          | some (value, rest) =>
            match skipJsonBlanks rest with
            | ',' :: rest =>
              (readMembers fuel depth rest).map fun (others, rest) =>
                ((String.ofList key, value) :: others, rest)
            | '}' :: rest => some ([(String.ofList key, value)], rest)
            | _ => none
        | _ => none
    | _ => none

end

/-- The value of a text that holds one JSON value, with at most so many levels of nesting. -/
def readNestedWith? (depth : Nat) (text : List Char) : Option Json :=
  match readValue readKey (2 * text.length + 2) depth text with
  | some (value, rest) => if (skipJsonBlanks rest).isEmpty then some value else none
  | none => none

/-- The value of a text that holds one JSON value. -/
def readWith? (text : String) : Option Json :=
  readNestedWith? readKey (nestingLimit - 1) text.toList

end Keys

/-- The value of a text that holds one JSON value whose keys are strings, with at most so many
levels of nesting. -/
def readNested? : Nat → List Char → Option Json := readNestedWith? readString

/-- The value of a text that holds one JSON value whose keys are strings. -/
def read? : String → Option Json := readWith? readString

end Dossier.Json
