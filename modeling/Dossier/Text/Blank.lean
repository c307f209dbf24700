import Dossier.Text.CharSet

/-!
# White space

Blank characters are those with the property White_Space: the ASCII blanks, the next-line
character, the no-break space and the spaces and separators of general punctuation.

* `isBlank` : the test for one character;
* `trim` : a text without the blanks at its two ends;
* `dropBlanks` : a text without any blank.
-/

namespace Dossier

/-- The blank characters. -/
def CharSet.blank : CharSet := ⟨[
  (0x9, 0xD), (0x20, 0x20), (0x85, 0x85), (0xA0, 0xA0), (0x1680, 0x1680), (0x2000, 0x200A),
  (0x2028, 0x2029), (0x202F, 0x202F), (0x205F, 0x205F), (0x3000, 0x3000)]⟩

namespace Text

/-- Whether a character is white space. -/
def isBlank (c : Char) : Bool := CharSet.blank.contains c

/-- The text without the blanks in front. -/
def trimStart (s : List Char) : List Char := s.dropWhile isBlank

/-- The text without the blanks at its end. -/
def trimEnd (s : List Char) : List Char := (s.reverse.dropWhile isBlank).reverse

/-- The text without the blanks at its two ends. -/
def trim (s : List Char) : List Char := trimEnd (trimStart s)

/-- The text without any blank. -/
def dropBlanks (s : List Char) : List Char := s.filter fun c => !isBlank c

end Text

/-- The string without the blanks at its two ends. -/
def trimmed (s : String) : String := String.ofList (Text.trim s.toList)

end Dossier
