import Dossier.Number.Digits
import Dossier.Text.LetterCase

/-!
# Items of simple expressions

A simple expression is a list of items: characters that stand for themselves, runs of white space,
wildcards and placeholders that capture a value.

* `DecimalSign`, `Capture` : what a placeholder captures;
* `Item` : the items;
* `Item.pattern` : an item as the text of a regular expression, and `patternOf` for a list.
-/

namespace Dossier

/-- Which of the two signs stands before the decimals of a number. The other one may stand between
its digits. -/
inductive DecimalSign where
  | dot
  | comma
deriving DecidableEq, Repr

/-- What a placeholder captures. -/
inductive Capture where
  /-- Letters of any script. -/
  | word
  /-- ASCII digits. -/
  | int
  /-- Digits with spaces and separators between them, and decimals. -/
  | number (sign : DecimalSign)
deriving DecidableEq, Repr

/-- One item of a simple expression. -/
inductive Item where
  /-- A character that is not white space. -/
  | char (c : Char)
  /-- White space, as much as there is. -/
  | blank
  /-- Any text, as little as possible. -/
  | anyText
  /-- Any one character. -/
  | anyChar
  | placeholder (name : String) (capture : Capture)
deriving DecidableEq, Repr

namespace DecimalSign

/-- The sign with a name, in any case. -/
def ofName? (name : String) : Option DecimalSign :=
  match lowercased name with
  | "dot" => some dot
  | "comma" => some comma
  | _ => none

end DecimalSign

/-- The characters that a regular expression reads in a special way. -/
def isPatternSign (c : Char) : Bool :=
  match c with
  | '\\' | '.' | '+' | '*' | '?' | '(' | ')' | '|' | '[' | ']' | '{' | '}' | '^' | '$' | '#'
  | '&' | '-' | '~' => true
  | _ => false

/-- A character as it stands for itself in a regular expression. -/
def quoteSign (c : Char) : List Char := if isPatternSign c then ['\\', c] else [c]

/-- The body of the group that captures a value. -/
def Capture.pattern : Capture → List Char
  | .word => "\\p\x7bL\x7d+".toList
  | .int => "[0-9]+".toList
  | .number .dot => "[0-9 ,]+(?:\\.[0-9]*)?".toList
  | .number .comma => "[0-9 .]+(?:,[0-9]*)?".toList

/-- The group that captures a value under a name. -/
def Capture.group (name : String) (c : Capture) : List Char :=
  "(?P<".toList ++ name.toList ++ '>' :: (c.pattern ++ [')'])

namespace Item

/-- An item as the text of a regular expression. -/
def pattern : Item → List Char
  | char c => quoteSign c
  | blank => ['\\', 's', '+']
  | anyText => ['.', '*', '?']
  | anyChar => ['.']
  | placeholder name capture => capture.group name

end Item

/-- The items of an expression as the text of a regular expression. -/
def patternOf (items : List Item) : List Char := items.flatMap Item.pattern

/-- The names of the placeholders, in the order in which they stand. -/
def placeholderNames (items : List Item) : List String :=
  items.filterMap fun
    | .placeholder name _ => some name
    | _ => none

end Dossier
