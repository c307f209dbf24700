import Dossier.CommandLine.Program
import Dossier.CommandLine.Command
import Dossier.Report.Batch
import Dossier.Report.Evaluation
import Dossier.Settings
import Dossier.Storage.Search
import Dossier.Wire.Document
import Dossier.Wire.Pattern
import Dossier.Wire.Results

/-!
# Running commands

* `Command.run` : what a command does;
* `run` : what the program does with arguments.
-/

namespace Dossier.CommandLine

open Program

variable {m : Type → Type} [Monad m] [Host m]

/-! ## Files -/

/-- What stands at a path, if anything. -/
def fileExists (path : String) : Program m Bool := Host.has (m := m) path

/-- The text in a configuration file. -/
def readSettings (path : String) : Program m String := do
  require (fun _ => "I/O error") (← Host.read (m := m) path)

/-- The file for the configuration if none is given. -/
def defaultConfigPath : Program m String := do
  return Path.join (Path.join (← Host.configFolder (m := m)) "dissect") "config.json"

/-- The configuration in a file that is given, or in the default file if there is one. -/
def loadConfig (path : Option String) : Program m Config := do
  match path with
  | some path =>
    let failed := "Failed to load config from " ++ path
    let text ← require (fun _ => failed) (← Host.read (m := m) path)
    require (fun _ => failed) (Config.load text)
  | none =>
    let path ← defaultConfigPath
    let text ← if ← fileExists path then some <$> readSettings path else pure none
    require LoadFault.message (Settings.load text)

/-- The value in a JSON file, or a message. -/
def tryReadJson {α : Type} (decode : Json → Decoded α) (path : String) :
    Program m (Except String α) := do
  if ← fileExists path then
    match ← Host.read (m := m) path with
    | .error fault => return .error fault.message
    | .ok text => return (readAs decode text).mapError fun _ => "Invalid JSON in " ++ path
  else return .error ("File not found: " ++ path)

/-- The value in a JSON file. -/
def readJson {α : Type} (decode : Json → Decoded α) (path : String) : Program m α := do
  require id (← tryReadJson decode path)

/-- Puts a text into a file. -/
def writeFile (path text : String) : Program m Unit := do
  require StorageFault.message (← Host.write (m := m) path text)

/-! ## Expressions and patterns -/

/-- Prints the regular expression for an expression, and the names of its groups if asked for. -/
def compile (config : Option String) (e : Expression) (listGroups : Bool) : Program m Unit := do
  let config ← loadConfig config
  let c ← require ExpressionError.message (e.compile config.expression.sizeLimit)
  say c.pattern
  if listGroups then sayAll (c.groupNames.map fun name => "  • " ++ name)

/-- The note on a name that is not in the catalog. -/
def unknownNote (n : CategoryName) : String :=
  "⚠ Unknown " ++ n.category.name ++ " name: " ++ n.name

/-- The catalog in a file, if one is given. -/
def readCatalog (path : Option String) : Program m (Option Catalog) :=
  path.mapM (readJson Catalog.ofJson)

/-- Evaluates a pattern for a document and shows the result. -/
def evaluate (config : Option String) (r : EvaluateRequest) : Program m Unit := do
  let config ← loadConfig config
  let pattern ← readJson Pattern.ofJson r.pattern
  let document ← readJson Document.ofJson r.document
  let catalog ← readCatalog r.catalog
  match catalog with
  | some catalog => (unknownNames pattern catalog).forM fun n => note (unknownNote n)
  | none => pure ()
  let evaluation := ({ config, catalog } : Evaluator).evaluate pattern document
  let text :=
    match r.format with
    | .json => evaluation.toJson.pretty
    | .text => "\n".intercalate (evaluation.report pattern)
  match r.output with
  | some path =>
    writeFile path text
    say ("✓ Output written to " ++ path)
  | none => say text

/-! ## Batches -/

/-- The JSON files that fit a pattern for paths. There is at least one. -/
def expand (pattern : String) : Program m (List String) := do
  let p ← require Glob.Fault.message (Glob.readPath pattern)
  let paths ← Glob.jsonFiles (m := m) p
  if paths.isEmpty then fail ("No matching files found for pattern: " ++ pattern)
  else return paths

/-- Classifies the documents in files. The number of workers is that of the request or, if it has
none, that of the configuration. -/
def classifyFiles (v : Evaluator) (r : BatchRequest) (ps : List Pattern) (paths : List String) :
    Program m Batch := do
  let workers := max 1 (r.jobs.getD v.config.processing.jobs)
  if maxWorkers < workers then throw (.panic tooManyWorkers)
  let files ← paths.mapM fun path => return (path, ← tryReadJson Document.ofJson path)
  require (fun f => "Processing failed for " ++ f.path ++ ": " ++ f.error)
    (Batch.run v workers (← Host.schedule (m := m)) r.continueOnError ps files)

/-- Puts the results of a batch into a file, if one is given, and shows what became of it. -/
def showBatch (output : Option String) (b : Batch) : Program m Unit := do
  match output with
  | some path =>
    writeFile path b.tally.toJson.pretty
    say ("✓ Results written to " ++ path)
  | none => pure ()
  sayAll (b.report (← Host.elapsed (m := m)))

/-- Classifies the documents in files and shows what became of them. -/
def batch (config : Option String) (r : BatchRequest) : Program m Unit := do
  let config ← loadConfig config
  let patternPaths ← expand r.patterns
  let documentPaths ← expand r.documents
  let patterns ← patternPaths.mapM (readJson Pattern.ofJson)
  say ("ℹ Found " ++ natString patterns.length ++ " patterns and " ++
    natString documentPaths.length ++ " documents")
  let catalog ← readCatalog r.catalog
  showBatch r.output (← classifyFiles { config, catalog } r patterns documentPaths)

/-! ## Configuration -/

/-- The text in the configuration file, if there is one. -/
def settingsFile (path : String) : Program m (Option String) := do
  if ← fileExists path then some <$> readSettings path else return none

/-- Writes a configuration to a file, and makes the folder of the file if it is missing. -/
def saveSettings (path : String) (c : Config) : Program m Unit := do
  match Path.parent? path with
  | some folder => require StorageFault.message (← Host.createFolders (m := m) folder)
  | none => pure ()
  require (fun _ => "I/O error") (← Host.write (m := m) path (Settings.text c))

/-- Prints the configuration. -/
def showSettings (path : String) : Program m Unit := do
  let file ← settingsFile path
  if file.isNone then note "ℹ No config file found, showing defaults."
  let c ← require LoadFault.message (Settings.load file)
  say (Settings.text c)

/-- Writes the default configuration to a file, in place of another one only by force. -/
def createSettings (path : String) (force : Bool) : Program m Unit := do
  if (← fileExists path) && !force then
    fail ("Config file already exists at " ++ path ++ ". Use --force to overwrite.")
  saveSettings path {}
  say ("✓ Created configuration file at " ++ path)

/-- Prints the value of a key. -/
def getSetting (path key : String) : Program m Unit := do
  let value ← require SettingFault.message (Settings.get (← settingsFile path) key)
  say value.pretty

/-- Changes the value of a key in the configuration file. -/
def setSetting (path key value : String) : Program m Unit := do
  let value := Settings.readValue value
  let c ← require SettingFault.message (Settings.set (← settingsFile path) key value)
  saveSettings path c
  say ("✓ Set " ++ key ++ " = " ++ value.compact)

/-- Prints where the configuration file is and whether it exists. -/
def showPath (path : String) : Program m Unit := do
  say ("Configuration file: " ++ path)
  if ← fileExists path then say "Status: exists"
  else sayAll ["Status: not created", "",
    "Run 'dissect config init' to create a configuration file."]

/-- Does something with the configuration. -/
def configure (config : Option String) (r : ConfigRequest) : Program m Unit := do
  let path ← match config with
    | some path => pure path
    | none => defaultConfigPath
  match r with
  | .showAll => showSettings path
  | .create output force => createSettings (output.getD path) force
  | .get key => getSetting path key
  | .set key value => setSetting path key value
  | .showPath => showPath path

/-! ## Commands -/

/-- What a command does. -/
def Invocation.run (i : Invocation) : Program m Unit :=
  match i.command with
  | .compile e listGroups => compile i.config e listGroups
  | .evaluate r => evaluate i.config r
  | .batch r => batch i.config r
  | .config r => configure i.config r

/-- How the program is used. -/
def usage : String := "\n".intercalate [
  "Usage: dissect [OPTIONS] <COMMAND>",
  "",
  "Commands:",
  "  compile   Compile a simple expression to a regex",
  "  evaluate  Evaluate a pattern against a single document",
  "  batch     Classify many documents against many patterns",
  "  config    Manage configuration",
  "",
  "Options:",
  "  -v, --verbose...       Enable verbose output",
  "  -c, --config <CONFIG>  Path to config file",
  "  -h, --help             Print help",
  "  -V, --version          Print version"]

/-- What the program does with arguments. -/
def run (args : List String) : m Outcome :=
  match Invocation.read args with
  | .ok i => i.run.outcome
  | .error .help => return .ofText usage
  | .error .version => return .ofText "dissect 0.1.0"
  | .error .misused => return .misused usage

end Dossier.CommandLine
