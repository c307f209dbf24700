import Dossier.Storage.Host
import Dossier.Storage.Path

/-!
# Disks in memory

* `Disk` : files and folders, and what else a program on it finds;
* the instance of `Host` for programs that work on such a disk.
-/

namespace Dossier

/-- What stands on a disk under a path. -/
inductive DiskItem where
  | folder
  | file (text : String)
deriving DecidableEq, Repr

/-- Files and folders by the names on the way to them, and where a program runs. -/
structure Disk where
  items : List (List String × DiskItem) := []
  /-- The folder in which paths start. -/
  workingFolder : List String := []
  configFolder : String := ""
  elapsed : String := ""
  schedule : Nat → Nat := fun _ => 0

namespace Disk

/-- What stands at a place. The root is a folder. -/
def item? (d : Disk) (place : List String) : Option DiskItem :=
  if place.isEmpty then some .folder else d.items.lookup place

/-- The disk with something at a place. -/
def put (d : Disk) (place : List String) (item : DiskItem) : Disk :=
  { d with items := (place, item) :: d.items.filter fun i => i.1 != place }

/-- Follows names from a place on. All but the last one lead to folders. -/
def walk (d : Disk) (place : List String) : List String → Except StorageFault (List String)
  | [] => .ok place
  | name :: rest =>
    match d.item? place with
    | none => .error .notFound
    | some (.file _) => .error .notFolder
    | some .folder =>
      if name = "" ∨ name = "." then d.walk place rest
      else if name = ".." then d.walk place.dropLast rest
      else d.walk (place ++ [name]) rest

/-- The place where the names of a path start. -/
def startOf (d : Disk) (path : String) : List String :=
  if Path.isAbsolute path then [] else d.workingFolder

/-- The place of a path. -/
def place (d : Disk) (path : String) : Except StorageFault (List String) :=
  if path = "" then .error .notFound else d.walk (d.startOf path) (Path.pieces path)

def kind? (d : Disk) (path : String) : Option FileKind :=
  match d.place path with
  | .error _ => none
  | .ok place =>
    (d.item? place).map fun item =>
      match item with
      | .folder => .folder
      | .file _ => .file

def names (d : Disk) (folder : String) : List String :=
  match d.place folder with
  | .error _ => []
  | .ok place =>
    d.items.filterMap fun i => if i.1.dropLast == place then i.1.getLast? else none

def read (d : Disk) (path : String) : Except StorageFault String := do
  match d.item? (← d.place path) with
  | none => .error .notFound
  | some .folder => .error .isFolder
  | some (.file text) => .ok text

def write (d : Disk) (path text : String) : Except StorageFault Disk := do
  let place ← d.place path
  match d.item? place with
  | some .folder => .error .isFolder
  | _ => .ok (d.put place (.file text))

/-- Makes the folders on the way from a place on. -/
def makeFolders (d : Disk) (place : List String) : List String → Except StorageFault Disk
  | [] => .ok d
  | name :: rest =>
    if name = "" ∨ name = "." then d.makeFolders place rest
    else if name = ".." then d.makeFolders place.dropLast rest
    else
      let place := place ++ [name]
      match d.item? place with
      | none => (d.put place .folder).makeFolders place rest
      | some .folder => d.makeFolders place rest
      | some (.file _) => .error (if rest.isEmpty then .fileExists else .notFolder)

def createFolders (d : Disk) (path : String) : Except StorageFault Disk :=
  d.makeFolders (d.startOf path) (Path.pieces path)

/-- The disk with a file, and with the folders that it lies in. -/
def withFile (d : Disk) (path text : String) : Disk :=
  let folder := (Path.parent? path).getD ""
  let d := (d.createFolders folder).toOption.getD d
  (d.write path text).toOption.getD d

/-- Changes the disk unless there is a fault. -/
def change (f : Disk → Except StorageFault Disk) : StateM Disk (Except StorageFault Unit) :=
  fun d =>
    match f d with
    | .ok d => (.ok (), d)
    | .error fault => (.error fault, d)

instance : Host (StateM Disk) where
  kind? path := do return (← get).kind? path
  names folder := do return (← get).names folder
  read path := do return (← get).read path
  write path text := change fun d => d.write path text
  createFolders path := change fun d => d.createFolders path
  configFolder := do return (← get).configFolder
  elapsed := do return (← get).elapsed
  schedule := do return (← get).schedule

end Disk

end Dossier
