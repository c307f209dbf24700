import Dossier.Text.Pieces

/-!
# Paths

A path is a text in which slashes separate names. A leading slash makes it absolute.

* `Path.parts` : the names in a path, from left to right;
* `Path.parent?` : the folder that a path lies in;
* `Path.extension?` : what follows the last point of the last name;
* `Path.isBefore` : the order of paths, name by name.
-/

namespace Dossier.Path

/-- The texts between the slashes of a path. -/
def pieces (path : String) : List String := (Text.split ['/'] path.toList).map String.ofList

/-- The name of the root in the parts of an absolute path. -/
def root : String := "/"

/-- Whether a path starts at the root. -/
def isAbsolute (path : String) : Bool := path.toList.head? == some '/'

/-- The names in a path. The root comes first in an absolute path. A point, which stands for the
folder that has been reached, counts only at the start of a path. -/
def parts (path : String) : List String :=
  match pieces path with
  | [] => []
  | first :: rest =>
    let names := rest.filter fun name => name != "" && name != "."
    if isAbsolute path then root :: names
    else if first = "" then names
    else first :: names

/-- The path with the given names. -/
def ofParts : List String → String
  | [] => ""
  | first :: rest =>
    if first = root then root ++ "/".intercalate rest else "/".intercalate (first :: rest)

/-- The folder that a path lies in; the empty path for a name alone. -/
def parent? (path : String) : Option String :=
  match (parts path).reverse with
  | [] => none
  | last :: before => if last = root then none else some (ofParts before.reverse)

/-- A path for a name in a folder. -/
def join (folder name : String) : String :=
  if folder.isEmpty || folder.toList.getLast? == some '/' then folder ++ name
  else folder ++ "/" ++ name

/-- What follows the last point of the last name of a path. A point at the start of the name does
not count. -/
def extension? (path : String) : Option String :=
  match (parts path).getLast? with
  | none => none
  | some name =>
    let reversed := name.toList.reverse
    let after := (reversed.takeWhile (· != '.')).reverse
    match reversed.dropWhile (· != '.') with
    | _ :: _ :: _ => if name = ".." then none else some (String.ofList after)
    | _ => none

/-- Whether a path is one of a JSON file. -/
def isJson (path : String) : Bool :=
  (extension? path).any fun e => e.toList.map Char.toLower == ['j', 's', 'o', 'n']

/-- The root comes before all names, and the names of the present and the outer folder before all
others. -/
def rank (name : String) : Nat :=
  if name = root then 0 else if name = "." then 1 else if name = ".." then 2 else 3

/-- Whether the first of two rows of names comes before the second one. -/
def partsBefore : List String → List String → Bool
  | _, [] => false
  | [], _ :: _ => true
  | a :: as, b :: bs =>
    if a = b then partsBefore as bs
    else decide (rank a < rank b) || (rank a == rank b && decide (a < b))

/-- Whether a path comes before another one. -/
def isBefore (a b : String) : Bool := partsBefore (parts a) (parts b)

end Dossier.Path
