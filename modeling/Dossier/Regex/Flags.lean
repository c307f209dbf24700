import Dossier.Regex.Fault
import Dossier.Text.Blank

/-!
# Flags of an expression

Flags change how the text of an expression is read from some place on, to the end of the group in
which they are set. Matching starts with case, without multi-line anchors, and with a dot that
stands for every character.

* `Flags` : the flags in force;
* `Flags.skip` : passes over blanks and comments where the flags allow them;
* `readFlags` : the flags of a group, up to the colon or the bracket that ends them.
-/

namespace Dossier.Regex

/-- The flags in force at a place of an expression. -/
structure Flags where
  ignoreCase : Bool := false
  multiLine : Bool := false
  dotMatchesNewline : Bool := true
  swapGreed : Bool := false
  unicode : Bool := true
  returnLines : Bool := false
  ignoreBlanks : Bool := false
deriving Repr, DecidableEq

/-- Passes over blanks and over comments from a number sign to the end of the line. -/
def skipBlanks (inComment : Bool) : List Char → List Char
  | [] => []
  | c :: rest =>
    if inComment then skipBlanks (c != '\n') rest
    else if Text.isBlank c then skipBlanks false rest
    else if c = '#' then skipBlanks true rest
    else c :: rest

/-- Passes over blanks and comments if the flags say that they mean nothing. -/
def Flags.skip (f : Flags) (s : List Char) : List Char :=
  if f.ignoreBlanks then skipBlanks false s else s

/-- Sets the flag of a letter. -/
def Flags.set? (f : Flags) (letter : Char) (value : Bool) : Option Flags :=
  match letter with
  | 'i' => some { f with ignoreCase := value }
  | 'm' => some { f with multiLine := value }
  | 's' => some { f with dotMatchesNewline := value }
  | 'U' => some { f with swapGreed := value }
  | 'u' => some { f with unicode := value }
  | 'R' => some { f with returnLines := value }
  | 'x' => some { f with ignoreBlanks := value }
  | _ => none

/-- Flags as they are read. -/
structure FlagGroup where
  flags : Flags
  /-- The text from each letter on, the minus sign among the letters. The last letter comes
  first. -/
  seen : List (List Char)
  /-- The character that ended the flags: a colon or a closing bracket. -/
  closing : Char

/-- Reads flags up to a colon or a closing bracket. No letter stands twice, the minus sign stands
once at most and not at the end. -/
def readFlags (f : Flags) (value : Bool) (seen : List (List Char)) :
    List Char → Reading (FlagGroup × List Char)
  | [] => .fault .missingFlag [] []
  | c :: rest =>
    if c = ':' ∨ c = ')' then
      match seen with
      | ('-' :: letters) :: _ => .fault .danglingMinus ('-' :: letters) letters
      | _ => .ok (⟨f, seen, c⟩, rest)
    else match seen.find? fun s => s.head? == some c with
      | some earlier =>
        .error (.malformed (if c = '-' then .repeatedMinus else .repeatedFlag) ⟨c :: rest, rest⟩
          (some ⟨earlier, earlier.tail⟩))
      | none =>
        if c = '-' then readFlags f false ((c :: rest) :: seen) rest
        else match f.set? c value with
          | some f => readFlags f value ((c :: rest) :: seen) rest
          | none => .faultAtHead .unknownFlag (c :: rest)

end Dossier.Regex
