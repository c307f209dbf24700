/-!
# Lines

* `lines` : the lines of a text.
-/

namespace Dossier.Text

/-- The lines of a text, without the ends of the lines. A line end at the end of the text starts no
line. -/
def lines : List Char → List (List Char)
  | [] => []
  | '\r' :: '\n' :: rest => [] :: lines rest
  | '\n' :: rest => [] :: lines rest
  | c :: rest =>
    match lines rest with
    | [] => [[c]]
    | line :: lines => (c :: line) :: lines

end Dossier.Text
