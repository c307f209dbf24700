import Dossier.Text.Blank
import Dossier.Text.LetterCase

/-!
# Pieces of texts

* `cutAt?` : the text before and after the first occurrence of another text;
* `split`, `words` : the pieces of a text between separators or blanks;
* `replace` : a text with each occurrence of another text replaced;
* `capitalize`, `titleCase` : a text with capitals at its start or at the starts of its words.
-/

namespace Dossier.Text

/-- The text before and after the first occurrence of another text. -/
def cutAt? (separator : List Char) (s : List Char) : Option (List Char × List Char) :=
  if separator.isPrefixOf s then some ([], s.drop separator.length)
  else match s with
    | [] => none
    | c :: rest => (cutAt? separator rest).map fun (before, after) => (c :: before, after)

/-- Whether a text occurs in another one. -/
def occursIn (part s : List Char) : Bool := (cutAt? part s).isSome

/-- Pieces of one character each; the last of at most so many pieces is all that is left. -/
def splitChars : Nat → List Char → List (List Char)
  | 0, _ => []
  | 1, s => [s]
  | _ + 2, [] => [[]]
  | n + 2, c :: rest => [c] :: splitChars (n + 1) rest

/-- The pieces between occurrences of a text that is not empty; the last of at most so many pieces
is all that is left. -/
def splitAtMost (separator : List Char) : Nat → List Char → List (List Char)
  | 0, _ => []
  | 1, s => [s]
  | n + 2, s =>
    match cutAt? separator s with
    | some (before, after) => before :: splitAtMost separator (n + 1) after
    | none => [s]

/-- The pieces of a text between occurrences of another one, at most so many. The empty text occurs
between any two characters and at both ends. -/
def splitLimited (separator : List Char) (limit : Nat) (s : List Char) : List (List Char) :=
  if separator.isEmpty then
    match limit with
    | 0 => []
    | 1 => [s]
    | n + 2 => [] :: splitChars (n + 1) s
  else splitAtMost separator limit s

/-- All pieces of a text between occurrences of another one. -/
def split (separator s : List Char) : List (List Char) :=
  splitLimited separator (s.length + 2) s

/-- The pieces of a text between single blanks, at most so many. -/
def splitBlanks : Nat → List Char → List (List Char)
  | 0, _ => []
  | 1, s => [s]
  | n + 2, s =>
    match s.dropWhile fun c => !isBlank c with
    | [] => [s]
    | _ :: rest => s.takeWhile (fun c => !isBlank c) :: splitBlanks (n + 1) rest

/-- The words of a text. -/
def words (s : List Char) : List (List Char) :=
  (splitBlanks (s.length + 1) s).filter fun w => !w.isEmpty

/-- A text with each occurrence of another text replaced. -/
def replace (old new s : List Char) : List Char := new.intercalate (split old s)

/-- A text with a capital at its start and small letters after it. -/
def capitalize (s : List Char) : List Char :=
  match s with
  | [] => []
  | c :: rest => uppercaseChar c ++ lowercase rest

/-- Whether a character is a punctuation mark or a symbol of ASCII. -/
def isMark (c : Char) : Bool := 0x20 < c.toNat && c.toNat < 0x7F && !c.isAlphanum

/-- A text with a capital at the start of each word. The flag says whether a word starts next. -/
def titleFrom (atStart : Bool) : List Char → List Char
  | [] => []
  | c :: rest =>
    if isMark c || isBlank c then c :: titleFrom true rest
    else (if atStart then uppercaseChar c else lowercaseChar c) ++ titleFrom false rest

/-- A text with a capital at the start of each word and small letters elsewhere. -/
def titleCase (s : List Char) : List Char := titleFrom true s

end Dossier.Text
