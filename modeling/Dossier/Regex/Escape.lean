import Dossier.Number.Digits
import Dossier.Regex.Flags
import Dossier.Regex.Tree
import Dossier.Text.CaseFold
import Dossier.Text.Property

/-!
# Escapes

What a backslash and the characters after it stand for: a character, a class of characters or a
condition on the place.

* `Atom` : the smallest parts of an expression;
* `readEscape` : the atom after a backslash.
-/

namespace Dossier.Regex

/-- The smallest parts of an expression. -/
inductive Atom where
  | char (c : Char)
  | members (s : CharSet)
  | look (l : Look)
  | dot
deriving Repr

/-- The characters of a word under the flags. -/
def Flags.wordPart (f : Flags) : CharSet :=
  if f.unicode then .wordPart else ⟨[(0x30, 0x39), (0x41, 0x5A), (0x5F, 0x5F), (0x61, 0x7A)]⟩

/-- The digits under the flags. -/
def Flags.digit (f : Flags) : CharSet := if f.unicode then .digit else ⟨[(0x30, 0x39)]⟩

/-- The blanks under the flags. -/
def Flags.blank (f : Flags) : CharSet :=
  if f.unicode then .blank else ⟨[(0x9, 0xD), (0x20, 0x20)]⟩

/-- All characters outside a set. Without the Unicode flag these are bytes that need not be
characters, so they are refused. -/
def Flags.complement (f : Flags) (s : CharSet) (place : Span) : Reading CharSet :=
  if f.unicode then .ok s.complement else .fault .beyondBytes place.start place.stop

/-- A set with its case variants if case does not count. -/
def Flags.fold (f : Flags) (s : CharSet) : CharSet :=
  if !f.ignoreCase then s
  else if f.unicode then s.foldCase
  else s.union (s.foldCase.inter ⟨[(0, 0x7F)]⟩)

/-- Whether a character needs a backslash to stand for itself somewhere. -/
def isMeta (c : Char) : Bool := "\\.+*?()|[]\x7b\x7d^$#&-~".toList.contains c

/-- Whether a backslash may stand before a character without changing it: all ASCII characters but
letters, digits and the two angle brackets. -/
def isQuotable (c : Char) : Bool :=
  isMeta c || (c.toNat < 0x80 && !c.isAlphanum && c != '<' && c != '>')

/-- The character with a code point, if there is one. -/
def charOf? (n : Nat) : Option Char := if n.isValidChar then some (Char.ofNat n) else none

/-- Reads a fixed number of hexadecimal digits, with the value of those before. -/
def readHexDigits (f : Flags) : Nat → Nat → List Char → Reading (Nat × List Char)
  | 0, value, s => .ok (value, s)
  | _ + 1, _, [] => .fault .incompleteEscape [] []
  | n + 1, value, c :: rest =>
    match hexDigitValue? c with
    | some d => readHexDigits f n (16 * value + d) (f.skip rest)
    | none => .faultAtHead .invalidHexDigit (c :: rest)

/-- Reads hexadecimal digits up to a closing brace, which is left. Bounded by the number of
characters. -/
def readHexBraces (f : Flags) (brace : List Char) :
    Nat → Option Nat → List Char → Reading (Option Nat × List Char)
  | 0, _, _ => .fault .incompleteEscape brace []
  | _ + 1, _, [] => .fault .incompleteEscape brace []
  | bound + 1, value, c :: rest =>
    if c = '}' then .ok (value, c :: rest)
    else match hexDigitValue? c with
      | some d => readHexBraces f brace bound (some (16 * value.getD 0 + d)) (f.skip rest)
      | none => .faultAtHead .invalidHexDigit (c :: rest)

/-- Reads the digits of a character given by its code point, after an escape that starts at the
given place. -/
def readHex (f : Flags) (width : Nat) (start s : List Char) : Reading (Char × List Char) :=
  match f.skip s with
  | [] => .fault .incompleteEscape [] []
  | '{' :: inside => do
    let (value, close) ← readHexBraces f ('{' :: inside) (inside.length + 1) none (f.skip inside)
    let rest := f.skip close.tail
    match value with
    | none => .fault .emptyHex ('{' :: inside) rest
    | some n =>
      match charOf? n with
      | some c => .ok (c, rest)
      | none => .fault .invalidHex inside close
  | digits => do
    let (n, rest) ← readHexDigits f width 0 digits
    match charOf? n with
    | none => .fault .invalidHex digits rest
    | some c =>
      if !f.unicode && width == 2 && n > 0x7F then .fault .beyondBytes start rest
      else .ok (c, rest)

/-- The characters up to a closing brace, without blanks if these mean nothing, and the text after
the brace. -/
def readBraced (f : Flags) : Nat → List Char → Reading (List Char × List Char)
  | 0, _ => .fault .incompleteEscape [] []
  | _ + 1, [] => .fault .incompleteEscape [] []
  | bound + 1, c :: rest =>
    if c = '}' then .ok ([], rest)
    else do
      let (name, after) ← readBraced f bound (f.skip rest)
      return (c :: name, after)

/-- Reads the name of a property: one character, or several in braces. -/
def readPropertyName (f : Flags) (s : List Char) : Reading (List Char × List Char) :=
  match f.skip s with
  | [] => .fault .incompleteEscape [] []
  | '{' :: rest => readBraced f (rest.length + 1) (f.skip rest)
  | '\\' :: rest => .fault .invalidProperty ('\\' :: rest) rest
  | c :: rest => .ok ([c], f.skip rest)

/-- Reads the name of a property and finds its characters. -/
def readProperty (f : Flags) (negated : Bool) (start s : List Char) :
    Reading (CharSet × List Char) := do
  let (name, rest) ← readPropertyName f s
  if !f.unicode then .fault .beyondAscii start rest
  else match CharSet.ofProperty name with
    | .error .unknownName => .fault .unknownProperty start rest
    | .error .unknownValue => .fault .unknownPropertyValue start rest
    | .ok members =>
      let members := f.fold members
      .ok (if negated then members.complement else members, rest)

/-- Reads the letters and hyphens of a word-boundary name, without blanks if these mean nothing. -/
def readBoundaryName (f : Flags) : Nat → List Char → List Char × List Char
  | 0, s => ([], s)
  | _ + 1, [] => ([], [])
  | bound + 1, c :: rest =>
    if c.isAlpha || c == '-' then
      let (name, after) := readBoundaryName f bound (f.skip rest)
      (c :: name, after)
    else ([], c :: rest)

/-- Reads what follows the escape of a word boundary: the name of a special kind in braces, or
nothing. Braces that do not start with a name are left for a repetition count. -/
def readWordBoundary (f : Flags) (start s : List Char) : Reading (Look × List Char) :=
  let plain : Reading (Look × List Char) := .ok (.wordBoundary f.wordPart, s)
  match s with
  | '{' :: rest =>
    let inside := f.skip rest
    match inside with
    | [] => .fault .unclosedBoundaryOrCount start []
    | c :: _ =>
      if c.isAlpha || c == '-' then
        let (name, close) := readBoundaryName f inside.length inside
        match close with
        | '}' :: after =>
          match String.ofList name with
          | "start" => .ok (.wordStart f.wordPart, after)
          | "end" => .ok (.wordEnd f.wordPart, after)
          | "start-half" => .ok (.noWordBefore f.wordPart, after)
          | "end-half" => .ok (.noWordAfter f.wordPart, after)
          | _ => .fault .unknownBoundary inside close
        | _ => .fault .unclosedBoundary s close
      else plain
  | _ => plain

/-- Reads the atom whose backslash has been passed. -/
def readEscape (f : Flags) (s : List Char) : Reading (Atom × List Char) :=
  let start := '\\' :: s
  match s with
  | [] => .fault .incompleteEscape start []
  | c :: rest =>
    let char (c : Char) : Reading (Atom × List Char) := .ok (.char c, rest)
    let members (s : CharSet) : Reading (Atom × List Char) := .ok (.members s, rest)
    let others (s : CharSet) : Reading (Atom × List Char) :=
      (f.complement s ⟨start, rest⟩).bind members
    let look (l : Look) : Reading (Atom × List Char) := .ok (.look l, rest)
    match c with
    | 'x' => (readHex f 2 start rest).map fun (c, rest) => (.char c, rest)
    | 'u' => (readHex f 4 start rest).map fun (c, rest) => (.char c, rest)
    | 'U' => (readHex f 8 start rest).map fun (c, rest) => (.char c, rest)
    | 'p' => (readProperty f false start rest).map fun (s, rest) => (.members s, rest)
    | 'P' => (readProperty f true start rest).map fun (s, rest) => (.members s, rest)
    | 'd' => members f.digit
    | 'D' => others f.digit
    | 's' => members f.blank
    | 'S' => others f.blank
    | 'w' => members f.wordPart
    | 'W' => others f.wordPart
    | 'a' => char '\x07'
    | 'f' => char '\x0C'
    | 't' => char '\t'
    | 'n' => char '\n'
    | 'r' => char '\r'
    | 'v' => char '\x0B'
    | 'A' => look .textStart
    | 'z' => look .textEnd
    | 'b' => (readWordBoundary f start rest).map fun (l, rest) => (.look l, rest)
    | 'B' => look (.noWordBoundary f.wordPart)
    | '<' => look (.wordStart f.wordPart)
    | '>' => look (.wordEnd f.wordPart)
    | c =>
      if isQuotable c then char c
      else if c.isDigit then .fault .backReference start rest
      else .fault .unknownEscape start rest

end Dossier.Regex
