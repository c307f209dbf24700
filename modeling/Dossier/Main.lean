import Dossier.CommandLine.Run
import Dossier.Report.Duration

/-!
# The program

* the instance of `Host` for the machine on which the program runs;
* `main` : runs the command that the arguments ask for.
-/

namespace Dossier

/-- A program on the machine, which knows when it started, in nanoseconds. -/
abbrev Machine := ReaderT Nat IO

/-- The fault for an error of the machine. -/
def StorageFault.ofError : IO.Error → StorageFault
  | .noFileOrDirectory .. => .notFound
  | .inappropriateType _ code _ => if code = 21 then .isFolder else .notFolder
  | .alreadyExists .. => .fileExists
  | .userError _ => .notText
  | error => .other (toString error)

/-- Does something with files, and says why if it cannot be done. -/
def attempt {α : Type} (action : IO α) : Machine (Except StorageFault α) := do
  try return .ok (← action)
  catch error => return .error (.ofError error)

/-- What stands at a path, if anything. -/
def fileKind? (path : String) : IO (Option FileKind) := do
  try
    match (← (← IO.FS.realPath path).metadata).type with
    | .dir => return some .folder
    | _ => return some .file
  catch _ => return none

/-- The text in a file. -/
def fileText (path : String) : Machine (Except StorageFault String) := do
  if (← fileKind? path) == some .folder then return .error .isFolder
  attempt (IO.FS.readFile path)

/-- The names in a folder. -/
def folderNames (path : String) : IO (List String) := do
  try return (← (← IO.FS.realPath path).readDir).toList.map fun entry => entry.fileName
  catch _ => return []

/-- The folder for the configurations of programs. -/
def userConfigFolder : IO String := do
  match ← IO.getEnv "XDG_CONFIG_HOME" with
  | some folder => if Path.isAbsolute folder then return folder
  | none => pure ()
  match ← IO.getEnv "HOME" with
  | some home => return Path.join home ".config"
  | none => return "."

instance : Host Machine where
  kind? path := fileKind? path
  names folder := folderNames folder
  read path := fileText path
  write path text := attempt (IO.FS.writeFile path text)
  createFolders path := attempt do
    if path != "" then IO.FS.createDirAll path
  configFolder := userConfigFolder
  elapsed := do return durationText ((← IO.monoNanosNow) - (← read))
  schedule := return fun _ => 0

end Dossier

open Dossier in
/-- Runs the command that the arguments ask for. -/
def main (args : List String) : IO UInt32 := do
  let outcome ← (CommandLine.run args : Machine CommandLine.Outcome).run (← IO.monoNanosNow)
  IO.print outcome.printed.output
  IO.eprint outcome.printed.errors
  return UInt32.ofNat outcome.code
