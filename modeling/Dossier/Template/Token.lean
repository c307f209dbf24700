import Dossier.Json.Text
import Dossier.Number.FloatReader
import Dossier.Text.Blank

/-!
# Tokens of templates

A template is text with tags in it: output tags with an expression, block tags with a statement,
and comments. A sign after the opening or before the closing of a tag says what happens to the
blanks outside: a minus removes them.

* `Token` : the parts of a template;
* `Token.scan` : the tokens of a text. A fault is a token itself, so that it only counts when a
  reader gets there.
-/

namespace Dossier.Template

/-- Why a text is no template. -/
inductive Fault where
  /-- The text breaks the grammar. -/
  | malformed
  /-- A string holds an escape that has no meaning. -/
  | badEscape
deriving DecidableEq, Repr

/-- A part of a template. -/
inductive Token where
  /-- Text outside of tags. -/
  | text (s : String)
  | outputStart
  | outputEnd
  | blockStart
  | blockEnd
  | name (s : String)
  | str (s : String)
  | int (n : Nat)
  | float (x : Float)
  /-- An operator or a bracket. -/
  | symbol (s : String)
  | fault (f : Fault)
deriving Inhabited

namespace Token

/-- Whether a character is a blank inside tags. -/
def isTagBlank (c : Char) : Bool :=
  c == ' ' || c == '\t' || c == '\n' || c == '\r' || c == '\x0C'

/-- Whether a name can start with a character. -/
def startsName (c : Char) : Bool := c.isAlpha || c == '_'

/-- Whether a name can hold a character. -/
def inName (c : Char) : Bool := c.isAlphanum || c == '_'

/-! ## Numbers -/

/-- Where a number is read: among the digits in front, after its point, right after the letter of
its exponent, or in the exponent. -/
inductive NumberPlace where
  | whole
  | fraction
  | exponentStart
  | exponent
deriving DecidableEq

/-- The place after a character that a number can have at a place. -/
def NumberPlace.next? (p : NumberPlace) (c : Char) : Option NumberPlace :=
  if c.isDigit then some (if p = exponentStart then exponent else p)
  else if c = '_' then some p
  else if c = '.' then (if p = whole then some fraction else none)
  else if c = 'e' ∨ c = 'E' then
    (if p = whole ∨ p = fraction then some exponentStart else none)
  else if c = '+' ∨ c = '-' then (if p = exponentStart then some exponent else none)
  else none

/-- The characters of a number, the place where it ends, and the text after it. -/
def spanNumber (p : NumberPlace) : List Char → List Char × NumberPlace × List Char
  | [] => ([], p, [])
  | c :: rest =>
    match p.next? c with
    | none => ([], p, c :: rest)
    | some q =>
      let (number, last, after) := spanNumber q rest
      (c :: number, last, after)

/-- The value of digits under a base. -/
def valueIn (base : Nat) (digits : List Char) : Option Nat :=
  if digits.isEmpty then none
  else digits.foldlM (fun n c =>
    match hexDigitValue? c with
    | some d => if d < base then some (base * n + d) else none
    | none => none) 0

/-- The token of an integer with given digits. -/
def ofDigits (base : Nat) (digits : List Char) : Token :=
  match valueIn base digits with
  | some n => if n < twoTo 128 then int n else fault .malformed
  | none => fault .malformed

/-- The token of a number without its separators, which cannot stand at the end. -/
def ofNumber (number : List Char) (read : List Char → Token) : Token :=
  if number.getLast? = some '_' then fault .malformed else read (number.filter (· != '_'))

/-- The base that a letter after a zero stands for. -/
def base? (c : Char) : Option Nat :=
  if c = 'b' ∨ c = 'B' then some 2
  else if c = 'o' ∨ c = 'O' then some 8
  else if c = 'x' ∨ c = 'X' then some 16
  else none

/-- Whether an integer under a base can hold a character. The digits are checked later. -/
def inBased (base : Nat) (c : Char) : Bool :=
  c.isDigit || c == '_' || (base == 16 && (hexDigitValue? c).isSome)

/-- Reads a number without base. -/
def scanDecimal (s : List Char) : Token × List Char :=
  let (number, place, rest) := spanNumber .whole s
  let read (digits : List Char) : Token :=
    if place = .whole then ofDigits 10 digits
    else match readFloat? digits with
      | some x => float x
      | none => fault .malformed
  (ofNumber number read, rest)

/-- Reads a number. -/
def scanNumber (s : List Char) : Token × List Char :=
  match s with
  | '0' :: letter :: rest =>
    match base? letter with
    | some base =>
      let digits := rest.takeWhile (inBased base)
      (ofNumber digits (ofDigits base), rest.drop digits.length)
    | none => scanDecimal s
  | _ => scanDecimal s

/-! ## Strings -/

/-- Reads up to a quotation mark that is not behind a backslash. -/
def spanString (mark : Char) : List Char → Option (List Char × List Char)
  | [] => none
  | '\\' :: c :: rest => (spanString mark rest).map fun (s, after) => ('\\' :: c :: s, after)
  | c :: rest =>
    if c = mark then some ([], rest)
    else if c = '\\' then none
    else (spanString mark rest).map fun (s, after) => (c :: s, after)

/-- The character that a character after a backslash stands for. -/
def escaped? (c : Char) : Option Char := if c = '\'' then some '\'' else Json.simpleEscape? c

/-- The text that a string with escapes stands for. -/
def unescape : List Char → Option (List Char)
  | [] => some []
  | '\\' :: 'u' :: a :: b :: c :: d :: rest =>
    match Json.hexUnit? a b c d with
    | none => none
    | some unit =>
      if 0xDC00 ≤ unit ∧ unit ≤ 0xDFFF then none
      else if 0xD800 ≤ unit ∧ unit ≤ 0xDBFF then
        match rest with
        | '\\' :: 'u' :: a :: b :: c :: d :: rest =>
          match Json.hexUnit? a b c d with
          | none => none
          | some low =>
            if 0xDC00 ≤ low ∧ low ≤ 0xDFFF then
              (unescape rest).map (Json.joinSurrogates unit low :: ·)
            else none
        | _ => none
      else (unescape rest).map (Char.ofNat unit :: ·)
  | '\\' :: c :: rest =>
    match escaped? c with
    | some c => (unescape rest).map (c :: ·)
    | none => none
  | c :: rest => if c = '\\' then none else (unescape rest).map (c :: ·)

/-- Reads a string whose quotation mark has been passed. -/
def scanString (mark : Char) (s : List Char) : Token × List Char :=
  match spanString mark s with
  | none => (fault .malformed, [])
  | some (content, rest) =>
    match unescape content with
    | some plain => (str (String.ofList plain), rest)
    | none => (fault .badEscape, [])

/-! ## Tags -/

/-- The two kinds of tags with tokens in them. -/
inductive Tag where
  | output
  | block
deriving DecidableEq

/-- The character that stands between the braces of a tag and its inside. -/
def Tag.closer : Tag → Char
  | .output => '}'
  | .block => '%'

def Tag.endToken : Tag → Token
  | .output => outputEnd
  | .block => blockEnd

/-- The operators of two characters. -/
def isPair (a b : Char) : Bool :=
  ["//", "**", "==", "!=", ">=", "<="].contains (String.ofList [a, b])

/-- The operators and brackets of one character. -/
def isSingle (c : Char) : Bool := "+-*/%!.,:~|=><()[]\x7b\x7d".toList.contains c

/-- The change in the number of open brackets. -/
def nesting (c : Char) : Int :=
  if c = '(' ∨ c = '[' ∨ c = '{' then 1
  else if c = ')' ∨ c = ']' ∨ c = '}' then -1
  else 0

/-- Reads an operator or bracket. -/
def scanSymbol (s : List Char) : Token × Int × List Char :=
  match s with
  | a :: b :: rest =>
    if isPair a b then (symbol (String.ofList [a, b]), 0, rest)
    else if isSingle a then (symbol (String.ofList [a]), nesting a, b :: rest)
    else (fault .malformed, 0, [])
  | [a] =>
    if isSingle a then (symbol (String.ofList [a]), nesting a, []) else (fault .malformed, 0, [])
  | [] => (fault .malformed, 0, [])

/-- Reads one token inside a tag, without blanks in front. The number is the change in the number of
open brackets. -/
def scanToken (s : List Char) : Token × Int × List Char :=
  match s with
  | [] => (fault .malformed, 0, [])
  | c :: rest =>
    if startsName c then
      (name (String.ofList (s.takeWhile inName)), 0, s.dropWhile inName)
    else if c.isDigit then
      let (token, after) := scanNumber s
      (token, 0, after)
    else if c = '"' ∨ c = '\'' then
      let (token, after) := scanString c rest
      (token, 0, after)
    else scanSymbol s

/-- The text after the closing of a tag, and whether blanks are removed there. -/
def closed? (tag : Tag) (s : List Char) : Option (Bool × List Char) :=
  match s with
  | '-' :: c :: '}' :: rest => if c = tag.closer then some (true, rest) else none
  | '+' :: c :: '}' :: rest => if c = tag.closer then some (false, rest) else none
  | c :: '}' :: rest => if c = tag.closer then some (false, rest) else none
  | _ => none

/-- The text after the sign that may follow the opening of a tag. -/
def dropControl (s : List Char) : List Char :=
  match s with
  | '-' :: rest => rest
  | '+' :: rest => rest
  | _ => s

/-- The text after a block tag that holds a word only, and whether blanks are removed there. -/
def wordTag? (word : String) (s : List Char) : Option (Bool × List Char) :=
  let s := s.dropWhile isTagBlank
  if word.toList.isPrefixOf s then
    closed? .block ((s.drop word.length).dropWhile isTagBlank)
  else none

/-- The text up to the next opening of a tag, and the rest from there on. -/
def splitText : List Char → List Char × List Char
  | [] => ([], [])
  | '{' :: c :: rest =>
    if c = '{' ∨ c = '%' ∨ c = '#' then ([], '{' :: c :: rest)
    else
      let (before, after) := splitText (c :: rest)
      ('{' :: before, after)
  | c :: rest =>
    let (before, after) := splitText rest
    (c :: before, after)

/-- The text in front of a tag, without blanks at its end if the tag removes them. -/
def beforeTag (text after : List Char) : List Char :=
  if after[2]? = some '-' then Text.trimEnd text else text

/-- The end of a comment: the text after it, and whether blanks are removed there. -/
def afterComment? (previous : Char) : List Char → Option (Bool × List Char)
  | [] => none
  | '#' :: '}' :: rest => some (previous == '-', rest)
  | c :: rest => afterComment? c rest

/-- The content of a raw block, up to the tag that ends it, and the text after that tag. The flags
say whether blanks are removed before and after the tag. -/
def spanRaw : List Char → Option (List Char × Bool × Bool × List Char)
  | [] => none
  | '{' :: '%' :: rest =>
    match wordTag? "endraw" (dropControl rest) with
    | some (after, following) => some ([], rest.head? == some '-', after, following)
    | none => (spanRaw rest).map fun (s, more) => ('{' :: '%' :: s, more)
  | c :: rest => (spanRaw rest).map fun (s, more) => (c :: s, more)

/-- The token of a text, unless it is empty. -/
def ofText (s : List Char) : List Token :=
  if s.isEmpty then [] else [text (String.ofList s)]

mutual

/-- The tokens of a template from a place outside of tags. The fuel bounds the number of steps;
each takes a character. -/
def scanText (fuel : Nat) (trimmed : Bool) (s : List Char) : List Token :=
  match fuel with
  | 0 => []
  | fuel + 1 =>
    match if trimmed then Text.trimStart s else s with
    | [] => []
    | '{' :: '{' :: rest => outputStart :: scanTag fuel .output 0 (dropControl rest)
    | '{' :: '#' :: rest =>
      match afterComment? ' ' rest with
      | some (trimmed, rest) => scanText fuel trimmed rest
      | none => [fault .malformed]
    | '{' :: '%' :: rest =>
      match wordTag? "raw" (dropControl rest) with
      | some (before, rest) =>
        match spanRaw rest with
        | some (content, atEnd, after, rest) =>
          let content := if before then Text.trimStart content else content
          let content := if atEnd then Text.trimEnd content else content
          ofText content ++ scanText fuel after rest
        | none => [fault .malformed]
      | none => blockStart :: scanTag fuel .block 0 (dropControl rest)
    | s =>
      let (before, after) := splitText s
      ofText (beforeTag before after) ++ scanText fuel false after

/-- The tokens of a template from a place inside a tag, with the number of brackets that are open. A
tag does not end inside brackets. -/
def scanTag (fuel : Nat) (tag : Tag) (depth : Int) (s : List Char) : List Token :=
  match fuel with
  | 0 => []
  | fuel + 1 =>
    match s.dropWhile isTagBlank with
    | [] => []
    | s =>
      match if depth = 0 then closed? tag s else none with
      | some (trimmed, rest) => tag.endToken :: scanText fuel trimmed rest
      | none =>
        let (token, change, rest) := scanToken s
        token :: scanTag fuel tag (depth + change) rest

end

/-- The text without the end of its last line. -/
def dropLineEnd (s : List Char) : List Char :=
  let s := if s.getLast? = some '\n' then s.dropLast else s
  if s.getLast? = some '\r' then s.dropLast else s

/-- The tokens of a template. The end of its last line does not belong to it. -/
def scan (s : List Char) : List Token :=
  let s := dropLineEnd s
  scanText (2 * s.length + 1) false s

end Token

end Dossier.Template
