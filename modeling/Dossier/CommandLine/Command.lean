import Dossier.CommandLine.Arguments
import Dossier.Expression.Compiled

/-!
# Commands

* `Command` : what the program can be asked to do;
* `Invocation.read` : the command that arguments ask for.
-/

namespace Dossier.CommandLine

/-- How an evaluation is shown. -/
inductive OutputFormat where
  | json
  | text
deriving DecidableEq, Repr

/-- What to evaluate, and where the result goes: to the output if no file is given. -/
structure EvaluateRequest where
  pattern : String
  document : String
  catalog : Option String
  output : Option String
  format : OutputFormat

/-- What to classify, and how. -/
structure BatchRequest where
  patterns : String
  documents : String
  catalog : Option String
  /-- The number of workers, if it is not the one of the configuration. -/
  jobs : Option Nat
  output : Option String
  continueOnError : Bool

/-- What to do with the configuration. -/
inductive ConfigRequest where
  | showAll
  | create (output : Option String) (force : Bool)
  | get (key : String)
  | set (key value : String)
  | showPath

/-- What the program can be asked to do. -/
inductive Command where
  | compile (expression : Expression) (listGroups : Bool)
  | evaluate (request : EvaluateRequest)
  | batch (request : BatchRequest)
  | config (request : ConfigRequest)

/-- A command with the configuration file that it is given. -/
structure Invocation where
  config : Option String
  command : Command

/-- The option for the configuration file, which every command has. -/
def configOption : OptionForm := ⟨some 'c', "config", .text⟩

/-- The form of arguments of the program. -/
def programForm : ArgumentForm :=
  { options := [⟨some 'v', "verbose", .counted⟩, configOption]
    hasCommands := true, hasVersion := true }

def compileForm : ArgumentForm :=
  { options := [configOption, ⟨none, "regex", .absent⟩, ⟨none, "groups", .absent⟩], words := 1 }

def evaluateForm : ArgumentForm :=
  { options := [configOption, ⟨some 'p', "pattern", .path⟩, ⟨some 'd', "document", .path⟩,
      ⟨none, "catalog", .path⟩, ⟨some 'o', "output", .path⟩,
      ⟨some 'f', "format", .choice ["json", "text"]⟩] }

def batchForm : ArgumentForm :=
  { options := [configOption, ⟨some 'p', "patterns", .text⟩, ⟨some 'd', "documents", .text⟩,
      ⟨none, "catalog", .path⟩, ⟨some 'j', "jobs", .number⟩, ⟨some 'o', "output", .path⟩,
      ⟨none, "continue-on-error", .absent⟩] }

/-- The form of arguments of commands that have commands of their own. -/
def groupForm : ArgumentForm := { options := [configOption], hasCommands := true }

def createForm : ArgumentForm :=
  { options := [configOption, ⟨some 'o', "output", .path⟩, ⟨none, "force", .absent⟩] }

/-- The form of arguments of commands with words only. -/
def wordsForm (words : Nat) : ArgumentForm := { options := [configOption], words }

/-- The expression to compile. -/
def readCompile (a : Arguments) : Except Stop Command :=
  match a.words with
  | [text] =>
    .ok (.compile (if a.has "regex" then .regex text else .simple text) (a.has "groups"))
  | _ => .error .misused

def readEvaluate (a : Arguments) : Except Stop Command := do
  return .evaluate {
    pattern := ← a.value "pattern"
    document := ← a.value "document"
    catalog := a.value? "catalog"
    output := a.value? "output"
    format := if a.value? "format" = some "text" then .text else .json }

def readBatch (a : Arguments) : Except Stop Command := do
  return .batch {
    patterns := ← a.value "patterns"
    documents := ← a.value "documents"
    catalog := a.value? "catalog"
    jobs := (a.value? "jobs").bind readNumber?
    output := a.value? "output"
    continueOnError := a.has "continue-on-error" }

/-- The names of the commands. -/
def commandNames : List (List String) :=
  [["compile"], ["evaluate"], ["batch"], ["config"], ["config", "show"], ["config", "init"],
    ["config", "get"], ["config", "set"], ["config", "path"]]

/-- Asks for help on a command, if it exists. -/
def readHelp (group names : List String) : Stop :=
  if names.isEmpty || names = ["help"] || commandNames.contains (group ++ names) then .help
  else .misused

/-- A command together with the configuration file that is given among its own arguments. -/
def ArgumentForm.command (f : ArgumentForm) (config : Option String) (args : List String)
    (read : Arguments → Except Stop Command) : Except Stop Invocation := do
  let a ← f.read args
  return ⟨(a.value? "config").or config, ← read a⟩

/-- The command on the configuration that arguments ask for. -/
def readConfig (config : Option String) (args : List String) : Except Stop Invocation := do
  let a ← groupForm.read args
  let config := (a.value? "config").or config
  let command (form : ArgumentForm) (read : Arguments → Except Stop ConfigRequest) :=
    form.command config a.rest fun a => do return .config (← read a)
  match a.words with
  | ["show"] => command (wordsForm 0) fun _ => .ok .showAll
  | ["path"] => command (wordsForm 0) fun _ => .ok .showPath
  | ["init"] => command createForm fun a => .ok (.create (a.value? "output") (a.has "force"))
  | ["get"] => command (wordsForm 1) fun a =>
    match a.words with
    | [key] => .ok (.get key)
    | _ => .error .misused
  | ["set"] => command (wordsForm 2) fun a =>
    match a.words with
    | [key, value] => .ok (.set key value)
    | _ => .error .misused
  | ["help"] => .error (readHelp ["config"] a.rest)
  | _ => .error .misused

/-- The command that arguments ask for. A configuration file that is given later counts. -/
def Invocation.read (args : List String) : Except Stop Invocation := do
  let a ← programForm.read args
  let config := a.value? "config"
  match a.words with
  | ["compile"] => compileForm.command config a.rest readCompile
  | ["evaluate"] => evaluateForm.command config a.rest readEvaluate
  | ["batch"] => batchForm.command config a.rest readBatch
  | ["config"] => readConfig config a.rest
  | ["help"] => .error (readHelp [] a.rest)
  | _ => .error .misused

end Dossier.CommandLine
