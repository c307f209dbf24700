import Dossier.Expression.Error
import Dossier.Expression.Item

/-!
# Reading simple expressions

In the text of a simple expression `*` and `?` are wildcards, angle brackets enclose a placeholder,
and a backslash in front of one of these four signs makes it stand for itself. All other text
stands for itself.

* `readPlaceholder` : the item of the text between two angle brackets;
* `readItems` : the items of an expression text, or its first fault;
* `simplePattern` : the regular expression of a simple expression.
-/

namespace Dossier

/-- The signs that a backslash makes stand for themselves. -/
def isDelimiter (c : Char) : Bool := c == '<' || c == '>' || c == '*' || c == '?'

/-- Splits a text at every colon. -/
def splitColons : List Char → List (List Char)
  | [] => [[]]
  | c :: rest =>
    if c = ':' then [] :: splitColons rest
    else match splitColons rest with
      | part :: parts => (c :: part) :: parts
      | [] => [[c]]

/-- Whether a text is a name: a letter and then letters, digits and underscores, all ASCII. -/
def isPlaceholderName : List Char → Bool
  | [] => false
  | c :: rest => c.isAlpha && rest.all fun c => c.isAlphanum || c == '_'

theorem isPlaceholderName_cons {c : Char} {rest : List Char} :
    isPlaceholderName (c :: rest) = true ↔
      c.isAlpha = true ∧ ∀ d ∈ rest, (d.isAlphanum || d == '_') = true := by
  rw [isPlaceholderName, Bool.and_eq_true, List.all_eq_true]

/-- A name holds letters, digits and underscores only. -/
theorem not_mem_of_isPlaceholderName {name : List Char} (h : isPlaceholderName name = true)
    {c : Char} (hc : (c.isAlphanum || c == '_') = false) : c ∉ name := by
  obtain ⟨first, rest, rfl⟩ : ∃ first rest, name = first :: rest := by
    cases name with
    | nil => cases h
    | cons first rest => exact ⟨first, rest, rfl⟩
  obtain ⟨hfirst, hrest⟩ := isPlaceholderName_cons.mp h
  intro hmem
  rcases List.mem_cons.mp hmem with rfl | hmem
  · simp [Char.isAlphanum, hfirst] at hc
  · rw [hrest c hmem] at hc
    cases hc

/-- What the kind of a placeholder may be. -/
inductive CaptureKind where
  | word
  | int
  | number
deriving DecidableEq, Repr

/-- The kind with a name, in any case. -/
def CaptureKind.ofName? (name : String) : Option CaptureKind :=
  match lowercased name with
  | "word" => some word
  | "int" | "integer" => some int
  | "number" | "decimal" => some number
  | _ => none

/-- What a placeholder of a kind captures, given its arguments. A number takes its decimal sign as
an argument, a point by default; the other kinds take none. -/
def CaptureKind.capture (kind : CaptureKind) (name : String) (arguments : List String) :
    Except ExpressionError Capture :=
  match kind, arguments with
  | word, [] => .ok .word
  | word, _ => .error (.invalidArgument name .takesNone)
  | int, [] => .ok .int
  | int, _ => .error (.invalidArgument name .takesNone)
  | number, [] => .ok (.number .dot)
  | number, [argument] =>
    match DecimalSign.ofName? argument with
    | some sign => .ok (.number sign)
    | none => .error (.invalidArgument name (.unknownSign argument))
  | number, arguments => .error (.invalidArgument name (.tooMany arguments.length))

/-- The item of a placeholder, given the text between its brackets and the names used before. -/
def readPlaceholder (used : List String) (body : List Char) : Except ExpressionError Item :=
  let body := Text.trim body
  match splitColons body with
  | name :: kind :: arguments =>
    let name' := String.ofList name
    if name.isEmpty then .error (.invalidName name' .empty)
    else if !isPlaceholderName name then .error (.invalidName name' .specialCharacters)
    else if used.contains name' then .error (.invalidName name' .repeated)
    else
      let kindName := lowercased (String.ofList kind)
      match CaptureKind.ofName? (String.ofList kind) with
      | none => .error (.unknownKind kindName)
      | some kind =>
        (kind.capture kindName (arguments.map String.ofList)).map (.placeholder name')
  | _ => .error (.missingKind (String.ofList body))

/-- Adds a character that stands for itself to items in reverse. White space after white space adds
nothing. -/
def pushChar (items : List Item) (c : Char) : List Item :=
  if Text.isBlank c then
    match items with
    | .blank :: _ => items
    | _ => .blank :: items
  else .char c :: items

/-- Reads items, given those before in reverse and, inside a placeholder, the characters since its
opening bracket in reverse. A closing bracket outside a placeholder means nothing. -/
def readItemsFrom (items : List Item) (body : Option (List Char)) :
    List Char → Except ExpressionError (List Item)
  | [] => if body.isSome then .error .unterminated else .ok items.reverse
  | '\\' :: d :: rest =>
    if isDelimiter d then
      match body with
      | some b => readItemsFrom items (some (d :: b)) rest
      | none => readItemsFrom (pushChar items d) none rest
    else
      match body with
      | some b => readItemsFrom items (some ('\\' :: b)) (d :: rest)
      | none => readItemsFrom (pushChar items '\\') none (d :: rest)
  | c :: rest =>
    match body with
    | some b =>
      if c = '>' then
        match readPlaceholder (placeholderNames items) b.reverse with
        | .ok item => readItemsFrom (item :: items) none rest
        | .error e => .error e
      else readItemsFrom items (some (c :: b)) rest
    | none =>
      if c = '<' then readItemsFrom items (some []) rest
      else if c = '*' then readItemsFrom (.anyText :: items) none rest
      else if c = '?' then readItemsFrom (.anyChar :: items) none rest
      else if c = '>' then readItemsFrom items none rest
      else readItemsFrom (pushChar items c) none rest

/-- The items of an expression text, or its first fault. -/
def readItems (text : String) : Except ExpressionError (List Item) :=
  readItemsFrom [] none text.toList

/-- The regular expression of a simple expression. -/
def simplePattern (text : String) : Except ExpressionError String :=
  (readItems text).map fun items => String.ofList (patternOf items)

end Dossier
