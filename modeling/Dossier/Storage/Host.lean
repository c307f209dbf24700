/-!
# The machine around a program

* `StorageFault` : why a file cannot be read or written;
* `Host` : what a program needs from the machine that it runs on.
-/

namespace Dossier

/-- Why a file cannot be read or written. -/
inductive StorageFault where
  | notFound
  /-- A name on the way to the file is not one of a folder. -/
  | notFolder
  | isFolder
  | fileExists
  /-- The content is no text. -/
  | notText
  | other (message : String)
deriving DecidableEq, Repr

/-- The text that is shown for a fault. -/
def StorageFault.message : StorageFault → String
  | notFound => "No such file or directory (os error 2)"
  | notFolder => "Not a directory (os error 20)"
  | isFolder => "Is a directory (os error 21)"
  | fileExists => "File exists (os error 17)"
  | notText => "stream did not contain valid UTF-8"
  | other message => message

/-- What can stand at a path. -/
inductive FileKind where
  | file
  | folder
deriving DecidableEq, Repr

/-- The machine that a program runs on: its files and folders, its clock, and the order in which it
does what is done at the same time. -/
class Host (m : Type → Type) where
  /-- What stands at a path, if anything. -/
  kind? (path : String) : m (Option FileKind)
  /-- The names in a folder; none if it cannot be read. -/
  names (folder : String) : m (List String)
  /-- The text in a file. -/
  read (path : String) : m (Except StorageFault String)
  /-- Puts a text into a file, in place of what was there. -/
  write (path text : String) : m (Except StorageFault Unit)
  /-- Makes a folder and those that it lies in, as far as they are missing. -/
  createFolders (path : String) : m (Except StorageFault Unit)
  /-- The folder for the configurations of programs. -/
  configFolder : m String
  /-- The time since the program started, as it is shown. -/
  elapsed : m String
  /-- What happens next among tasks that run at the same time, step by step. -/
  schedule : m (Nat → Nat)

/-- Whether something stands at a path. -/
def Host.has {m : Type → Type} [Functor m] [Host m] (path : String) : m Bool :=
  Option.isSome <$> Host.kind? path

end Dossier
