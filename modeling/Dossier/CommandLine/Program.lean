import Dossier.Storage.Host

/-!
# Programs

A program works on a machine, prints lines, and may fail.

* `Program` : programs, and `Failure` : how they end early;
* `Outcome` : what a program leaves behind: its exit code and what it printed;
* `Program.outcome` : the outcome of a program.
-/

namespace Dossier.CommandLine

/-- What has been printed. -/
structure Printed where
  output : String := ""
  errors : String := ""

/-- What a program leaves behind. -/
structure Outcome where
  code : Nat
  printed : Printed

/-- How a program ends early. -/
inductive Failure where
  | message (text : String)
  /-- A library that the program uses stops it. -/
  | panic (text : String)
deriving DecidableEq, Repr

/-- What is done on a machine. It may end early. -/
abbrev Program (m : Type → Type) := ExceptT Failure (StateT Printed m)

namespace Program

variable {m : Type → Type} [Monad m] {α : Type}

/-- Prints a line. -/
def say (line : String) : Program m Unit :=
  modify fun p => { p with output := p.output ++ line ++ "\n" }

/-- Prints lines. -/
def sayAll (lines : List String) : Program m Unit := lines.forM say

/-- Prints a line for notes and errors. -/
def note (line : String) : Program m Unit :=
  modify fun p => { p with errors := p.errors ++ line ++ "\n" }

/-- Ends with a message. -/
def fail (message : String) : Program m α := throw (.message message)

/-- The value, or a failure with a message for the fault. -/
def require {ε : Type} (message : ε → String) : Except ε α → Program m α
  | .ok a => return a
  | .error fault => fail (message fault)

/-- The outcome of a program. A failure is printed with the errors. Its exit code tells a message
from a panic. -/
def outcome (p : Program m Unit) : m Outcome := do
  let (result, printed) ← p.run.run {}
  match result with
  | .ok () => return ⟨0, printed⟩
  | .error (.message text) =>
    return ⟨1, { printed with errors := printed.errors ++ "Error: " ++ text ++ "\n" }⟩
  | .error (.panic text) =>
    let text := "thread 'main' panicked:\n" ++ text ++ "\n"
    return ⟨101, { printed with errors := printed.errors ++ text }⟩

end Program

/-- The outcome of a program that only prints a text. -/
def Outcome.ofText (text : String) : Outcome := ⟨0, { output := text ++ "\n" }⟩

/-- The outcome of a program that was misused. -/
def Outcome.misused (text : String) : Outcome := ⟨2, { errors := text ++ "\n" }⟩

end Dossier.CommandLine
