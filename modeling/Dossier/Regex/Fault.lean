import Dossier.Number.Digits
import Dossier.Text.Lines

/-!
# Faults of expressions

A text that is no expression has a fault at some place. The message for it shows the text, marks
the place with carets, and names the cause.

* `Span` : a part of a text;
* `Cause` : what is wrong there;
* `Fault` : why an expression cannot be used;
* `Fault.message` : the text that is shown for it.
-/

namespace Dossier.Regex

/-- A part of a text, given by the text from its start on and by the text after it. -/
structure Span where
  start : List Char
  stop : List Char
deriving Repr, DecidableEq

/-- What is wrong with an expression text. -/
inductive Cause where
  | unclosedGroup
  | unopenedGroup
  | unclosedGroupName
  | emptyGroupName
  | invalidGroupName
  | repeatedGroupName
  | lookAround
  | backReference
  | unknownFlag
  | repeatedFlag
  | repeatedMinus
  | danglingMinus
  | missingFlag
  | nothingToRepeat
  | unclosedCount
  | emptyCount
  | invalidCount
  | reversedCount
  | incompleteEscape
  | unknownEscape
  | emptyHex
  | invalidHexDigit
  | invalidHex
  | invalidProperty
  | unknownProperty
  | unknownPropertyValue
  | unclosedBoundary
  | unknownBoundary
  | unclosedBoundaryOrCount
  | unclosedClass
  | escapeInClass
  | rangeWithoutLiteral
  | reversedRange
  | beyondAscii
  | beyondBytes
  | tooDeep (limit : Nat)
deriving Repr, DecidableEq

/-- Why an expression cannot be used. -/
inductive Fault where
  /-- The text is no expression. Two parts of it may be at odds. -/
  | malformed (cause : Cause) (place : Span) (earlier : Option Span)
  /-- The expression needs more than so many bytes. -/
  | tooLarge (limit : Nat)
deriving Repr, DecidableEq

/-- What has been read, or the first fault. -/
abbrev Reading (α : Type) := Except Fault α

/-- The fault of a part of the text. -/
def Reading.fault {α : Type} (cause : Cause) (start stop : List Char) : Reading α :=
  .error (.malformed cause ⟨start, stop⟩ none)

/-- The fault of the character at the start of a text. -/
def Reading.faultAtHead {α : Type} (cause : Cause) (s : List Char) : Reading α :=
  Reading.fault cause s s.tail

/-- The words for a cause. -/
def Cause.message : Cause → String
  | unclosedGroup => "unclosed group"
  | unopenedGroup => "unopened group"
  | unclosedGroupName => "unclosed capture group name"
  | emptyGroupName => "empty capture group name"
  | invalidGroupName => "invalid capture group character"
  | repeatedGroupName => "duplicate capture group name"
  | lookAround => "look-around, including look-ahead and look-behind, is not supported"
  | backReference => "backreferences are not supported"
  | unknownFlag => "unrecognized flag"
  | repeatedFlag => "duplicate flag"
  | repeatedMinus => "flag negation operator repeated"
  | danglingMinus => "dangling flag negation operator"
  | missingFlag => "expected flag but got end of regex"
  | nothingToRepeat => "repetition operator missing expression"
  | unclosedCount => "unclosed counted repetition"
  | emptyCount => "repetition quantifier expects a valid decimal"
  | invalidCount => "decimal literal invalid"
  | reversedCount => "invalid repetition count range, the start must be <= the end"
  | incompleteEscape => "incomplete escape sequence, reached end of pattern prematurely"
  | unknownEscape => "unrecognized escape sequence"
  | emptyHex => "hexadecimal literal empty"
  | invalidHexDigit => "invalid hexadecimal digit"
  | invalidHex => "hexadecimal literal is not a Unicode scalar value"
  | invalidProperty => "invalid Unicode character class"
  | unknownProperty => "Unicode property not found"
  | unknownPropertyValue => "Unicode property value not found"
  | unclosedBoundary =>
    "special word boundary assertion is either unclosed or contains an invalid character"
  | unknownBoundary =>
    "unrecognized special word boundary assertion, valid choices are: start, end, start-half " ++
      "or end-half"
  | unclosedBoundaryOrCount =>
    "found either the beginning of a special word boundary or a bounded repetition on a \\b " ++
      "with an opening brace, but no closing brace"
  | unclosedClass => "unclosed character class"
  | escapeInClass => "invalid escape sequence found in character class"
  | rangeWithoutLiteral => "invalid range boundary, must be a literal"
  | reversedRange => "invalid character class range, the start must be <= the end"
  | beyondAscii => "Unicode not allowed here"
  | beyondBytes => "pattern can match invalid UTF-8"
  | tooDeep limit =>
    "exceed the maximum number of nested parentheses/brackets (" ++ natString limit ++ ")"

/-! ## Marked texts -/

/-- A place in a text: a line and a column, both counted from zero. -/
structure Place where
  line : Nat
  column : Nat
deriving DecidableEq

/-- The place that follows some text. -/
def Place.after (before : List Char) : Place :=
  before.foldl (fun p c => if c = '\n' then ⟨p.line + 1, 0⟩ else ⟨p.line, p.column + 1⟩) ⟨0, 0⟩

/-- The place in a text where the given rest of it starts. -/
def placeOf (text rest : List Char) : Place := Place.after (text.take (text.length - rest.length))

/-- Carets under columns from a first one up to one before the second, at least one caret each. The
marks before take up so many columns. -/
def carets (used : Nat) : List (Nat × Nat) → List Char
  | [] => []
  | (first, stop) :: more =>
    let count := max 1 (stop - first)
    List.replicate (first - used) ' ' ++ List.replicate count '^' ++
      carets (max used first + count) more

/-- The places where a part of a text starts and ends. -/
def Span.places (text : List Char) (s : Span) : Place × Place :=
  (placeOf text s.start, placeOf text s.stop)

/-- The lines of a text, each with its number if there are several, and with carets below the parts
that lie in it. -/
def markedLines (text : List Char) (parts : List (Place × Place)) : List (List Char) :=
  let lines := Text.lines text
  let count := if text.getLast? = some '\n' then lines.length + 1 else lines.length
  let width := if count ≤ 1 then 0 else (digitsOf count).length
  let label (n : Nat) : List Char :=
    if width = 0 then List.replicate 4 ' '
    else
      let digits := digitsOf (n + 1)
      List.replicate (width - digits.length) ' ' ++ digits ++ [':', ' ']
  let mark (n : Nat) (line : List Char) : List (List Char) :=
    let inLine := parts.filter fun p => p.1.line = n && p.2.line = n
    let written := label n ++ line
    if inLine.isEmpty then [written]
    else
      let columns := inLine.map fun p => (p.1.column, p.2.column)
      [written, List.replicate (label n).length ' ' ++ carets 0 columns]
  (lines.zipIdx.map fun (line, n) => mark n line).flatten

/-- The place of a part that goes over several lines, in words. -/
def linesNote (p : Place × Place) : String :=
  "on line " ++ natString (p.1.line + 1) ++ " (column " ++ natString (p.1.column + 1) ++
    ") through line " ++ natString (p.2.line + 1) ++ " (column " ++ natString p.2.column ++ ")"

/-- The text that is shown for a fault of an expression text. -/
def Fault.message (text : List Char) : Fault → String
  | .tooLarge limit => "Compiled regex exceeds size limit of " ++ natString limit ++ " bytes."
  | .malformed cause place earlier =>
    let parts := (earlier.toList ++ [place]).map (Span.places text)
    let marked := (markedLines text parts).map String.ofList
    let error := "error: " ++ cause.message
    if text.contains '\n' then
      let divider := String.ofList (List.replicate 79 '~')
      let notes := (parts.filter fun p => p.1.line ≠ p.2.line).map linesNote
      "\n".intercalate
        (["regex parse error:", divider] ++ marked ++ [divider] ++ notes ++ [error])
    else "\n".intercalate (["regex parse error:"] ++ marked ++ [error])

end Dossier.Regex
