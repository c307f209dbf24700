import Dossier.Storage.Glob
import Dossier.Storage.Host

/-!
# Searching files

* `Glob.searchFolder` : what patterns for names find in a folder;
* `Glob.search` : the paths that fit a pattern;
* `Glob.jsonFiles` : those of JSON files, in order.
-/

namespace Dossier.Glob

variable {m : Type → Type} [Monad m] [Host m]

/-- The longest chain of names that is followed. Systems allow no longer paths. -/
def maxNames : Nat := 4096

/-- The path for a name in a folder that has been reached. Names in the folder at the start stand
by themselves. -/
def step (folder name : String) : String := if folder = "." then name else Path.join folder name

/-- Whether there is a folder at a path. -/
def isFolder (path : String) : m Bool := return (← Host.kind? path) == some .folder

section Folder

variable (folders : Bool) (next : List (List Token) → String → m (List String))

/-- A path where nothing is left to fit is found, if it is one of a folder or need not be; otherwise
the search goes on from there. -/
def settle (rest : List (List Token)) (path : String) : m (List String) := do
  if rest.isEmpty then return if folders && !(← isFolder path) then [] else [path]
  else next rest path

/-- What is found at a path if the first pattern fits its last name. -/
def fit (patterns : List (List Token)) (path name : String) : m (List String) :=
  match patterns with
  | [] => return []
  | tokens :: rest =>
    if matchesName tokens name.toList then settle folders next rest path else return []

/-- What is found at a path in a folder. A pattern for any folders may fit more than one name. -/
def visit (tokens : List Token) (rest : List (List Token)) (path name : String) :
    m (List String) := do
  if tokens.contains .anyFolders then
    let rest := rest.dropWhile fun tokens => tokens.contains .anyFolders
    if ← isFolder path then
      let inside ← next (tokens :: rest) path
      let here ← if rest.isEmpty then pure [path] else fit folders next rest path name
      return here ++ inside
    else fit folders next rest path name
  else fit folders next (tokens :: rest) path name

/-- What patterns for names find in a folder. A pattern that is a plain name needs no look at the
other names. -/
def searchFolder (tokens : List Token) (rest : List (List Token)) (folder : String) :
    m (List String) := do
  match plainText? tokens with
  | some name =>
    let name := String.ofList name
    let path := step folder name
    let isThere ← if name = "." || name = ".." then isFolder folder else Host.has path
    if isThere then settle folders next rest path else return []
  | none =>
    if ← isFolder folder then
      let found ← (← Host.names folder).mapM fun name =>
        visit folders next tokens rest (step folder name) name
      let special := [".", ".."].filter fun name =>
        tokens.head? == some (.char '.') && matchesName tokens name.toList
      let around ← special.mapM fun name => settle folders next rest (Path.join folder name)
      return found.flatten ++ around.flatten
    else return []

end Folder

/-- The paths that fit patterns for names, from a folder on. The patterns are not empty, and of
those for any folders no two follow each other. -/
def searchFrom (folders : Bool) : Nat → List (List Token) → String → m (List String)
  | 0, _, _ => return []
  | _ + 1, [], _ => return []
  | bound + 1, tokens :: rest, folder =>
    searchFolder folders (searchFrom folders bound) tokens rest folder

/-- The paths that fit a pattern, in no particular order. -/
def search (p : PathPattern) : m (List String) :=
  searchFrom p.folders maxNames p.names (if p.absolute then Path.root else ".")

/-- The paths of JSON files that fit a pattern, in order. -/
def jsonFiles (p : PathPattern) : m (List String) := do
  return ((← search p).filter Path.isJson).mergeSort fun a b => !Path.isBefore b a

end Dossier.Glob
