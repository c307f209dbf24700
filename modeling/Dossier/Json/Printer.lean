import Dossier.Json.Text
import Dossier.Number.FloatText

/-!
# Writing JSON texts

* `Json.compact` : the text without blanks;
* `Json.pretty` : the text with one element or member a line, set in by two blanks a level.

A number that is not finite is written as null.
-/

namespace Dossier.Json

/-- The text of a floating-point number. -/
def floatText (x : Float) : List Char :=
  if x.isFinite then FloatLayout.scientific.text x else ['n', 'u', 'l', 'l']

mutual

/-- The text of a value without blanks. -/
def compactChars : Json → List Char
  | null => ['n', 'u', 'l', 'l']
  | bool true => ['t', 'r', 'u', 'e']
  | bool false => ['f', 'a', 'l', 's', 'e']
  | int n => intText n
  | float x => floatText x
  | str s => quote s.toList
  | arr elements => '[' :: (compactElements elements ++ [']'])
  | obj members => '{' :: (compactMembers members ++ ['}'])

def compactElements : List Json → List Char
  | [] => []
  | [j] => compactChars j
  | j :: rest => compactChars j ++ ',' :: compactElements rest

def compactMembers : List (String × Json) → List Char
  | [] => []
  | [(key, j)] => quote key.toList ++ ':' :: compactChars j
  | (key, j) :: rest => quote key.toList ++ ':' :: (compactChars j ++ ',' :: compactMembers rest)

end

/-- A new line, set in by so many levels. -/
def newline (level : Nat) : List Char := '\n' :: List.replicate (2 * level) ' '

mutual

/-- The text of a value with a line for each element and member, at a level. -/
def prettyChars (level : Nat) : Json → List Char
  | arr [] => ['[', ']']
  | obj [] => ['{', '}']
  | arr elements =>
    '[' :: (prettyElements (level + 1) elements ++ newline level ++ [']'])
  | obj members =>
    '{' :: (prettyMembers (level + 1) members ++ newline level ++ ['}'])
  | null => ['n', 'u', 'l', 'l']
  | bool true => ['t', 'r', 'u', 'e']
  | bool false => ['f', 'a', 'l', 's', 'e']
  | int n => intText n
  | float x => floatText x
  | str s => quote s.toList

def prettyElements (level : Nat) : List Json → List Char
  | [] => []
  | [j] => newline level ++ prettyChars level j
  | j :: rest => newline level ++ prettyChars level j ++ ',' :: prettyElements level rest

def prettyMembers (level : Nat) : List (String × Json) → List Char
  | [] => []
  | [(key, j)] => newline level ++ quote key.toList ++ ':' :: ' ' :: prettyChars level j
  | (key, j) :: rest =>
    newline level ++ quote key.toList ++ ':' :: ' ' :: (prettyChars level j ++
      ',' :: prettyMembers level rest)

end

/-- The text of a value without blanks. -/
def compact (j : Json) : String := String.ofList j.compactChars

/-- The text of a value with a line for each element and member. -/
def pretty (j : Json) : String := String.ofList (prettyChars 0 j)

end Dossier.Json
