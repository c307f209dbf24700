import Dossier.Number.Digits
import Dossier.Storage.Path

/-!
# Patterns for paths

In a pattern a question mark stands for one character, an asterisk for any characters of a name,
and brackets for one character out of a list, or, after an exclamation mark, out of all others. Two
asterisks as a name stand for any folders, one inside the other.

* `Glob.Token` : the parts of a pattern;
* `Glob.read` : the parts of a pattern text;
* `Glob.matchesName` : whether a name fits a pattern.
-/

namespace Dossier.Glob

/-- A part of a pattern. -/
inductive Token where
  | char (c : Char)
  | anyChar
  /-- Any characters. -/
  | anyChars
  /-- Any folders. -/
  | anyFolders
  /-- One character from one of some ranges. -/
  | oneOf (ranges : List (Char × Char))
  | noneOf (ranges : List (Char × Char))
deriving DecidableEq, Repr

/-- What is wrong with a pattern. -/
inductive Cause where
  | threeAsterisks
  | asterisksInName
  | badRange
deriving DecidableEq, Repr

/-- What is wrong with a pattern, and where. -/
structure Fault where
  place : Nat
  cause : Cause
deriving DecidableEq, Repr

def Cause.message : Cause → String
  | threeAsterisks => "wildcards are either regular `*` or recursive `**`"
  | asterisksInName => "recursive wildcards must form a single path component"
  | badRange => "invalid range pattern"

/-- The text that is shown for a fault. -/
def Fault.message (f : Fault) : String :=
  "Pattern syntax error near position " ++ natString f.place ++ ": " ++ f.cause.message

/-- The ranges that a list of characters stands for. A hyphen between two characters makes a
range. -/
def readRanges : List Char → List (Char × Char)
  | a :: '-' :: b :: rest => (a, b) :: readRanges rest
  | a :: rest => (a, a) :: readRanges rest
  | [] => []

/-- Splits a list in brackets at its closing bracket. The first character may be a bracket. -/
def splitList (s : List Char) : Option (List Char × List Char) :=
  match s with
  | [] => none
  | first :: rest =>
    match rest.dropWhile (· != ']') with
    | _ :: after => some (first :: rest.takeWhile (· != ']'), after)
    | [] => none

/-- Reads a list whose opening bracket has been passed. -/
def readList (s : List Char) : Option (Token × List Char) :=
  match s with
  | '!' :: rest => (splitList rest).map fun (list, rest) => (.noneOf (readRanges list), rest)
  | _ => (splitList s).map fun (list, rest) => (.oneOf (readRanges list), rest)

/-- Reads one part of a pattern at a place, with the character before it if there is one. -/
def readToken (place : Nat) (before : Option Char) (s : List Char) :
    Except Fault (Option (Token × List Char)) :=
  match s with
  | [] => .ok none
  | '?' :: rest => .ok (some (.anyChar, rest))
  | '[' :: rest =>
    match readList rest with
    | some found => .ok (some found)
    | none => .error ⟨place, .badRange⟩
  | '*' :: '*' :: '*' :: _ => .error ⟨place + 2, .threeAsterisks⟩
  | '*' :: '*' :: rest =>
    if before.all (· == '/') then
      match rest with
      | [] => .ok (some (.anyFolders, []))
      | '/' :: rest => .ok (some (.anyFolders, rest))
      | _ => .error ⟨place + 2, .asterisksInName⟩
    else .error ⟨place - 1, .asterisksInName⟩
  | '*' :: rest => .ok (some (.anyChars, rest))
  | c :: rest => .ok (some (.char c, rest))

/-- Reads the parts of a pattern. Each part takes a character. -/
def readTokens (text : List Char) : Nat → List Char → Except Fault (List Token)
  | 0, _ => .ok []
  | bound + 1, s => do
    let place := text.length - s.length
    match ← readToken place (if place = 0 then none else text[place - 1]?) s with
    | none => return []
    | some (token, rest) => return token :: (← readTokens text bound rest)

/-- The parts of a pattern text. -/
def read (s : List Char) : Except Fault (List Token) := readTokens s (s.length + 1) s

/-- The text that a pattern stands for, if it stands for one only. -/
def plainText? : List Token → Option (List Char)
  | [] => some []
  | .char c :: tokens => (plainText? tokens).map fun s => c :: s
  | _ => none

/-- Whether a part stands for a character. -/
def Token.fits (c : Char) : Token → Bool
  | char d => c == d
  | anyChar => true
  | anyChars => false
  | anyFolders => false
  | oneOf ranges => ranges.any fun r => r.1 ≤ c && c ≤ r.2
  | noneOf ranges => !ranges.any fun r => r.1 ≤ c && c ≤ r.2

/-- Whether a text starts anywhere with something that a test accepts. -/
def somewhere (test : List Char → Bool) : List Char → Bool
  | [] => test []
  | c :: rest => test (c :: rest) || somewhere test rest

/-- Whether a name fits a pattern. -/
def matchesName : List Token → List Char → Bool
  | [], s => s.isEmpty
  | .anyChars :: tokens, s => somewhere (matchesName tokens) s
  | .anyFolders :: tokens, s => somewhere (matchesName tokens) s
  | token :: tokens, s =>
    match s with
    | [] => false
    | c :: rest => token.fits c && matchesName tokens rest

/-- The patterns for the single names of a path. -/
structure PathPattern where
  absolute : Bool
  names : List (List Token)
  /-- Whether only folders are meant. -/
  folders : Bool

/-- The patterns for the names in a pattern for paths. Both the whole pattern and each of its names
have to be patterns. -/
def readPath (pattern : String) : Except Fault PathPattern := do
  let text := pattern.toList
  let _ ← read text
  let absolute := text.head? == some '/'
  let relative := if absolute then text.tail else text
  let names := Text.split ['/'] relative
  let names := if names.getLast? == some [] then names.dropLast else names
  let names := if relative.isEmpty then [[]] else names
  return {
    absolute
    names := ← names.mapM read
    folders := text.getLast? == some '/' }

end Dossier.Glob
