import Dossier.Json.Basic
import Dossier.Number.Digits

/-!
# Strings of JSON texts

* `quote` : a string in quotation marks, with escapes where they are needed;
* `readString` : a string whose opening quotation mark has been passed;
* `readNumberKey` : a key that may stand for a number.
-/

namespace Dossier.Json

/-- The text of one character inside quotation marks. -/
def quoteChar (c : Char) : List Char :=
  if c = '"' then ['\\', '"']
  else if c = '\\' then ['\\', '\\']
  else if c = '\n' then ['\\', 'n']
  else if c = '\r' then ['\\', 'r']
  else if c = '\t' then ['\\', 't']
  else if c = '\x08' then ['\\', 'b']
  else if c = '\x0C' then ['\\', 'f']
  else if c.toNat < 0x20 then '\\' :: 'u' :: hexDigitsOf 4 c.toNat
  else [c]

/-- A string in quotation marks. -/
def quote (s : List Char) : List Char := '"' :: (s.flatMap quoteChar ++ ['"'])

/-- The value of four hexadecimal digits. -/
def hexUnit? (a b c d : Char) : Option Nat := do
  let a ← hexDigitValue? a
  let b ← hexDigitValue? b
  let c ← hexDigitValue? c
  let d ← hexDigitValue? d
  return ((a * 16 + b) * 16 + c) * 16 + d

/-- The character of two halves of a code point beyond the first plane. -/
def joinSurrogates (high low : Nat) : Char :=
  Char.ofNat (0x10000 + (high - 0xD800) * 0x400 + (low - 0xDC00))

/-- The character that a letter after a backslash stands for. -/
def simpleEscape? (c : Char) : Option Char :=
  if c = '"' then some '"'
  else if c = '\\' then some '\\'
  else if c = '/' then some '/'
  else if c = 'b' then some '\x08'
  else if c = 'f' then some '\x0C'
  else if c = 'n' then some '\n'
  else if c = 'r' then some '\r'
  else if c = 't' then some '\t'
  else none

/-- Reads a string whose opening quotation mark has been passed. Control characters need an
escape, and halves of a code point come in pairs. -/
def readString : List Char → Option (List Char × List Char)
  | [] => none
  | '"' :: rest => some ([], rest)
  | '\\' :: 'u' :: a :: b :: c :: d :: rest =>
    match hexUnit? a b c d with
    | none => none
    | some unit =>
      if 0xDC00 ≤ unit ∧ unit ≤ 0xDFFF then none
      else if 0xD800 ≤ unit ∧ unit ≤ 0xDBFF then
        match rest with
        | '\\' :: 'u' :: a :: b :: c :: d :: rest =>
          match hexUnit? a b c d with
          | none => none
          | some low =>
            if 0xDC00 ≤ low ∧ low ≤ 0xDFFF then
              (readString rest).map fun (s, after) => (joinSurrogates unit low :: s, after)
            else none
        | _ => none
      else (readString rest).map fun (s, after) => (Char.ofNat unit :: s, after)
  | '\\' :: c :: rest =>
    match simpleEscape? c with
    | some c => (readString rest).map fun (s, after) => (c :: s, after)
    | none => none
  | c :: rest =>
    if c.toNat < 0x20 then none
    else (readString rest).map fun (s, after) => (c :: s, after)

/-- Reads a key that may stand for a number. Escapes stand for no digits of a number: a key of
digits is left as it is written, which for such a key is the text up to the next quotation mark. -/
def readNumberKey (s : List Char) : Option (List Char × List Char) :=
  (readString s).map fun (key, rest) =>
    (if key.all Char.isDigit then s.takeWhile (· ≠ '"') else key, rest)

end Dossier.Json
