import Dossier.Proofs.Batch.Files
import Dossier.Proofs.CommandLine.Running
import Dossier.Proofs.Storage.Search
import Dossier.Proofs.Wire.Config

/-!
# Batches from the command line

The command for batches classifies the documents in files as if they were classified one after the
other, unless there are more workers than a semaphore can serve.

* `Ready` : what the command has read before it looks at the documents;
* `batch_on` : all that it does then;
* `batch_classifies` : the results of a batch;
* `batch_panics` : too many workers.
-/

namespace Dossier.CommandLine

open Program

variable {α : Type} {decode : Json → Decoded α} {d : Disk} {path pattern : String}
  {paths : List String} {p : Printed}

/-! ## Reading -/

theorem looks_readJson : Looks (readJson decode path) :=
  looks_tryReadJson.bind fun r => .require _ r

theorem seen_readJson : seen (readJson decode path) d = (d.json decode path).mapError .message := by
  rw [readJson, looks_tryReadJson.seen_bind, seen_tryReadJson]
  exact seen_require _ _ d

/-- What stands in a file with the compact text of a value. -/
theorem json_compact {j : Json} {a : α} (hread : d.read path = .ok j.compact)
    (hwithin : j.Within Json.ReadsBack) (hdepth : j.depth < Json.nestingLimit)
    (hdecode : decode j = .ok a) : d.json decode path = .ok a :=
  Disk.json_ok hread
    (readAs_of_read? ((Json.read?_compact hwithin).trans (if_pos hdepth)) hdecode)

theorem json_invalid {text : String} (hread : d.read path = .ok text)
    (hinvalid : Json.read? text = none) :
    d.json decode path = .error ("Invalid JSON in " ++ path) := by
  simp only [Disk.json, Disk.kind?_of_read hread, Option.isSome_some, if_true, hread, readAs,
    hinvalid]
  rfl

/-- Values in several JSON files. -/
theorem seen_readJsons {as : List α} (h : paths.mapM (d.json decode) = .ok as) :
    seen (paths.mapM (readJson decode)) d = .ok as := by
  rw [seen_mapM fun _ => looks_readJson]
  induction paths generalizing as with
  | nil =>
    cases h
    rfl
  | cons path paths ih =>
    rw [List.mapM_cons] at h ⊢
    obtain ⟨a, ha, h⟩ := Decoded.bind_eq_ok.mp h
    obtain ⟨rest, hrest, h⟩ := Decoded.bind_eq_ok.mp h
    cases h
    rw [seen_readJson, ha, ih hrest]
    rfl

theorem looks_loadConfig (path : Option String) : Looks (loadConfig (m := StateM Disk) path) := by
  cases path with
  | some path =>
    refine (Looks.lift fun _ => rfl).bind fun r => ?_
    exact (Looks.require _ r).bind fun text => .require _ _
  | none =>
    refine Looks.bind ((Looks.lift fun _ => rfl).bind fun _ => .pure _) fun path => ?_
    refine Looks.bind (looks_fileExists path) fun found => .ite ?_ ?_
    · exact ((looks_readSettings path).map some).bind fun _ => .require _ _
    · exact (Looks.pure none).bind fun _ => .require _ _

/-- A configuration file that is given is loaded. -/
theorem seen_loadConfig_some {text : String} {c : Config} (hread : d.read path = .ok text)
    (hload : Config.load text = .ok c) : seen (loadConfig (some path)) d = .ok c := by
  show seen (liftM (Host.read path : StateM Disk _) >>= fun r => require _ r >>= fun text =>
    require _ (Config.load text)) d = _
  rw [(Looks.lift fun _ => rfl).seen_bind, seen_lift]
  show seen (require _ (d.read path) >>= fun text => require _ (Config.load text)) d = _
  rw [hread, (Looks.require _ _).seen_bind, seen_require]
  show seen (require _ (Config.load text)) d = _
  rw [hload, seen_require]
  rfl

/-- Without a configuration file the defaults are loaded. -/
theorem seen_loadConfig_none (h : d.kind? (d.configPath none) = none) :
    seen (loadConfig none) d = .ok {} := by
  have hpath : Looks (defaultConfigPath (m := StateM Disk)) :=
    (Looks.lift fun _ => rfl).bind fun _ => .pure _
  show seen (defaultConfigPath >>= fun path => fileExists path >>= fun found =>
    if found = true then _ else _) d = _
  rw [hpath.seen_bind]
  show seen (fileExists (d.configPath none) >>= fun found => if found = true then _ else _) d = _
  rw [(looks_fileExists _).seen_bind, seen_fileExists, h]
  rfl

theorem looks_expand (pattern : String) : Looks (expand (m := StateM Disk) pattern) := by
  refine (Looks.require _ _).bind fun p => ?_
  exact (Looks.lift (Glob.still_jsonFiles p)).bind fun paths => .ite (.throw _) (.pure _)

/-- The files that fit a pattern come in order. -/
theorem expand_ordered (h : seen (expand pattern) d = .ok paths) : Ordered paths := by
  rw [expand, (Looks.require _ _).seen_bind, seen_require] at h
  obtain ⟨p, -, h⟩ := Decoded.bind_eq_ok.mp h
  rw [(Looks.lift (Glob.still_jsonFiles p)).seen_bind, seen_lift] at h
  have hordered := Glob.jsonFiles_ordered p d
  generalize (Glob.jsonFiles p : StateM Disk (List String)) d = found at h hordered
  change seen (if found.1.isEmpty = true then
    fail ("No matching files found for pattern: " ++ pattern) else pure found.1) d = _ at h
  split at h
  · cases h
  · cases h
    exact hordered

/-- Files that fit a pattern are found in order. -/
theorem seen_expand {p : Glob.PathPattern} (hread : Glob.readPath pattern = .ok p)
    (hfound : ((Glob.search p : StateM Disk (List String)) d).1.filter Path.isJson = paths)
    (hordered : Ordered paths) (hne : paths ≠ []) : seen (expand pattern) d = .ok paths := by
  rw [expand, (Looks.require _ _).seen_bind, seen_require, hread]
  show seen (liftM (Glob.jsonFiles p : StateM Disk (List String)) >>= fun paths =>
    if paths.isEmpty = true then _ else pure paths) d = _
  rw [(Looks.lift (Glob.still_jsonFiles p)).seen_bind, seen_lift,
    Glob.jsonFiles_of_ordered hfound hordered]
  show seen (if paths.isEmpty = true then _ else pure paths) d = _
  rw [if_neg (by simpa using hne)]
  rfl

theorem looks_readCatalog (path : Option String) : Looks (readCatalog (m := StateM Disk) path) := by
  cases path with
  | none => exact .pure none
  | some path => exact looks_readJson.map some

theorem seen_readCatalog {path : Option String} {catalog : Option Catalog}
    (h : path.mapM (d.json Catalog.ofJson) = .ok catalog) :
    seen (readCatalog path) d = .ok catalog := by
  cases path with
  | none =>
    cases h
    rfl
  | some path =>
    obtain ⟨c, hc, h⟩ := Decoded.bind_eq_ok.mp h
    cases h
    show seen (some <$> readJson Catalog.ofJson path) d = _
    rw [looks_readJson.seen_map, seen_readJson, hc]
    rfl

/-! ## Classifying -/

/-- The files with what stands in them. -/
def filesAt (d : Disk) (paths : List String) : List (String × Except String Document) :=
  paths.map fun path => (path, d.json Document.ofJson path)

theorem documents_filesAt (d : Disk) (paths : List String) :
    Batch.documents (filesAt d paths) =
      paths.filterMap fun path => (d.json Document.ofJson path).toOption := by
  rw [Batch.documents, filesAt, List.filterMap_map]
  rfl

theorem failures_filesAt_eq_nil
    (h : ∀ path ∈ paths, ∃ document, d.json Document.ofJson path = .ok document) :
    Batch.failures (filesAt d paths) = [] := by
  rw [Batch.failures, filesAt, List.filterMap_map, List.filterMap_eq_nil_iff]
  intro path hpath
  obtain ⟨document, hread⟩ := h path hpath
  simp only [Function.comp_apply, hread]

/-- The first file that cannot be read is the first one that fails. -/
theorem failures_filesAt_first {before : List String} (after : List String) {error : String}
    (hbefore : ∀ path ∈ before, ∃ document, d.json Document.ofJson path = .ok document)
    (hpath : d.json Document.ofJson path = .error error) :
    Batch.failures (filesAt d (before ++ path :: after)) =
      ⟨path, error⟩ :: Batch.failures (filesAt d after) := by
  have happend : Batch.failures (filesAt d (before ++ path :: after)) =
      Batch.failures (filesAt d before) ++ Batch.failures (filesAt d (path :: after)) := by
    rw [filesAt, List.map_append, Batch.failures, List.filterMap_append]
    rfl
  rw [happend, failures_filesAt_eq_nil hbefore, filesAt, List.map_cons, hpath]
  rfl

/-- The documents in files, or messages. -/
def readFiles (paths : List String) :
    Program (StateM Disk) (List (String × Except String Document)) :=
  paths.mapM fun path => do return (path, ← tryReadJson Document.ofJson path)

theorem looks_readFiles (paths : List String) : Looks (readFiles paths) :=
  .mapM (fun _ => looks_tryReadJson.bind fun _ => .pure _) paths

theorem seen_readFiles (paths : List String) : seen (readFiles paths) d = .ok (filesAt d paths) := by
  rw [readFiles, seen_mapM fun _ => looks_tryReadJson.bind fun _ => .pure _]
  induction paths with
  | nil => rfl
  | cons path paths ih =>
    rw [List.mapM_cons, ih, looks_tryReadJson.seen_bind, seen_tryReadJson]
    rfl

theorem classifyFiles_eq (v : Evaluator) (r : BatchRequest) (ps : List Pattern) :
    classifyFiles (m := StateM Disk) v r ps paths =
      if maxWorkers < max 1 (r.jobs.getD v.config.processing.jobs) then
        throw (.panic tooManyWorkers)
      else readFiles paths >>= fun files =>
        liftM (Host.schedule : StateM Disk (Nat → Nat)) >>= fun schedule =>
        require (fun f => "Processing failed for " ++ f.path ++ ": " ++ f.error)
          (Batch.run v (max 1 (r.jobs.getD v.config.processing.jobs)) schedule r.continueOnError ps
            files) := by
  rw [classifyFiles]
  simp only
  split
  · rfl
  · rfl

theorem looks_classifyFiles (v : Evaluator) (r : BatchRequest) (ps : List Pattern)
    (paths : List String) : Looks (classifyFiles v r ps paths) := by
  rw [classifyFiles_eq]
  refine .ite (.throw _) ((looks_readFiles paths).bind fun files => ?_)
  exact (Looks.lift fun _ => rfl).bind fun schedule => .require _ _

theorem seen_classifyFiles (v : Evaluator) (r : BatchRequest) (ps : List Pattern)
    (h : max 1 (r.jobs.getD v.config.processing.jobs) ≤ maxWorkers) (paths : List String) :
    seen (classifyFiles v r ps paths) d =
      (Batch.run v (max 1 (r.jobs.getD v.config.processing.jobs)) d.schedule r.continueOnError ps
        (filesAt d paths)).mapError fun f =>
          .message ("Processing failed for " ++ f.path ++ ": " ++ f.error) := by
  rw [classifyFiles_eq, if_neg (Nat.not_lt.mpr h), (looks_readFiles paths).seen_bind,
    seen_readFiles]
  show seen (liftM (Host.schedule : StateM Disk (Nat → Nat)) >>= _) d = _
  rw [(Looks.lift fun _ => rfl).seen_bind, seen_lift]
  exact seen_require _ _ d

/-! ## Showing -/

/-- What has been printed after more lines. -/
def Printed.lines (p : Printed) (lines : List String) : Printed :=
  { p with output := lines.foldl (fun text line => text ++ line ++ "\n") p.output }

theorem Printed.lines_cons (line : String) (lines : List String) :
    (p.lines [line]).lines lines = p.lines (line :: lines) := rfl

theorem on_sayAll (lines : List String) : on (sayAll lines) p d = ((.ok (), p.lines lines), d) := by
  induction lines generalizing p with
  | nil => rfl
  | cons line lines ih =>
    show on (say line >>= fun _ => sayAll lines) p d = _
    rw [on_bind, on_say]
    exact ih

/-- A report that is made when the time is known. -/
theorem on_report (b : Batch) :
    on (liftM (Host.elapsed : StateM Disk String) >>= fun time => sayAll (b.report time)) p d =
      ((.ok (), p.lines (b.report d.elapsed)), d) := by
  rw [on_bind, on_lift]
  exact on_sayAll _

theorem on_writeFile (path text : String) : on (writeFile path text) p d =
    match d.write path text with
    | .ok e => ((.ok (), p), e)
    | .error fault => ((.error (.message fault.message), p), d) :=
  on_change StorageFault.message fun d => d.write path text

/-- The results of a batch go into the file that is given, if it can be written. -/
theorem on_showBatch (output : Option String) (b : Batch) :
    on (showBatch output b) p d =
      match output with
      | none => ((.ok (), p.lines (b.report d.elapsed)), d)
      | some path =>
        match d.write path b.tally.toJson.pretty with
        | .ok e =>
          ((.ok (), p.lines (("✓ Results written to " ++ path) :: b.report e.elapsed)), e)
        | .error fault => ((.error (.message fault.message), p), d) := by
  cases output with
  | none => exact on_report b
  | some path =>
    show on (writeFile path b.tally.toJson.pretty >>= fun _ =>
      say ("✓ Results written to " ++ path) >>= fun _ => _) p d = _
    rw [on_bind, on_writeFile]
    cases hwrite : d.write path b.tally.toJson.pretty with
    | error fault => simp only [hwrite]
    | ok e =>
      simp only [hwrite]
      rw [on_bind, on_say]
      exact on_report b

/-! ## Whole batches -/

/-- What a batch has read before it looks at the documents. -/
structure Ready (config : Option String) (r : BatchRequest) (d : Disk) (c : Config)
    (patternPaths documentPaths : List String) (ps : List Pattern) (catalog : Option Catalog) :
    Prop where
  configLoaded : seen (loadConfig config) d = .ok c
  patternsFound : seen (expand r.patterns) d = .ok patternPaths
  documentsFound : seen (expand r.documents) d = .ok documentPaths
  patternsRead : patternPaths.mapM (d.json Pattern.ofJson) = .ok ps
  catalogRead : r.catalog.mapM (d.json Catalog.ofJson) = .ok catalog

variable {config : Option String} {r : BatchRequest} {c : Config} {catalog : Option Catalog}
  {patternPaths documentPaths : List String} {ps : List Pattern}

/-- The line that a batch starts with. -/
def foundLine (ps : List Pattern) (paths : List String) : String :=
  "ℹ Found " ++ natString ps.length ++ " patterns and " ++ natString paths.length ++ " documents"

/-- Then the documents are classified, and the results are shown. -/
theorem batch_on (h : Ready config r d c patternPaths documentPaths ps catalog) :
    let printed := Printed.lines {} [foundLine ps documentPaths]
    on (batch config r) {} d =
      match seen (classifyFiles { config := c, catalog } r ps documentPaths) d with
      | .ok b => on (showBatch r.output b) printed d
      | .error failure => ((.error failure, printed), d) := by
  intro printed
  rw [batch, on_bind, looks_loadConfig, h.configLoaded]
  simp only
  rw [on_bind, looks_expand, h.patternsFound]
  simp only
  rw [on_bind, looks_expand, h.documentsFound]
  simp only
  rw [on_bind, (Looks.mapM (fun _ => looks_readJson) patternPaths), seen_readJsons h.patternsRead]
  simp only
  rw [on_bind, on_say]
  simp only
  rw [on_bind, looks_readCatalog, seen_readCatalog h.catalogRead]
  simp only
  rw [on_bind, looks_classifyFiles]
  cases seen (classifyFiles { config := c, catalog } r ps documentPaths) d <;> rfl

/-- More workers than a semaphore can serve are a panic. -/
theorem batch_panics (h : Ready config r d c patternPaths documentPaths ps catalog)
    (hworkers : maxWorkers < max 1 (r.jobs.getD c.processing.jobs)) :
    on (Invocation.run ⟨config, .batch r⟩) {} d =
      ((.error (.panic tooManyWorkers), .lines {} [foundLine ps documentPaths]), d) := by
  have hseen : seen (classifyFiles { config := c, catalog } r ps documentPaths) d =
      .error (.panic tooManyWorkers) := by
    rw [classifyFiles_eq, if_pos hworkers]
    rfl
  refine (batch_on h).trans ?_
  rw [hseen]

/-! ### A pattern and a document -/

/-- A pattern and a document, each in a file of the root folder. -/
def shelf : Disk where
  items := [(["blank.json"], .file (Json.obj [("name", .str "Blank")]).compact),
    (["letter.json"], .file (Json.obj [("id", .int 1)]).compact)]

/-- A number of workers is to classify the document and to write the results into a file. -/
def shelfRequest (jobs : Nat) : BatchRequest where
  patterns := "blank.json"
  documents := "letter.json"
  catalog := none
  jobs := some jobs
  output := some "results.json"
  continueOnError := false

/-- What the disk says about its files, and that there are neither settings nor results. -/
theorem disk_shelf :
    (shelf.read "blank.json").toOption = some (Json.obj [("name", .str "Blank")]).compact ∧
      (shelf.read "letter.json").toOption = some (Json.obj [("id", .int 1)]).compact ∧
      (seen (expand "blank.json") shelf).toOption = some ["blank.json"] ∧
      (seen (expand "letter.json") shelf).toOption = some ["letter.json"] ∧
      shelf.kind? (shelf.configPath none) = none ∧
      (shelf.place "results.json").toOption = some ["results.json"] ∧
      shelf.item? ["results.json"] ≠ some .folder ∧
      (shelf.read "results.json").toOption = none := by
  decide +kernel

theorem json_shelf :
    shelf.json Pattern.ofJson "blank.json" = .ok { name := "Blank" } ∧
      shelf.json Document.ofJson "letter.json" = .ok { id := 1 } := by
  obtain ⟨hpattern, hdocument, -⟩ := disk_shelf
  exact ⟨json_compact (ok_of_toOption hpattern) ⟨trivial, trivial⟩ (by decide) rfl,
    json_compact (ok_of_toOption hdocument) ⟨⟨by decide, by decide⟩, trivial⟩ (by decide) rfl⟩

theorem ready_shelf (jobs : Nat) :
    Ready none (shelfRequest jobs) shelf {} ["blank.json"] ["letter.json"] [{ name := "Blank" }]
      none := by
  obtain ⟨-, -, hpatterns, hdocuments, hconfig, -⟩ := disk_shelf
  refine ⟨seen_loadConfig_none hconfig, ok_of_toOption hpatterns, ok_of_toOption hdocuments, ?_,
    rfl⟩
  rw [List.mapM_cons, json_shelf.1]
  rfl

/-! ### Several documents -/

/-- Two workers for the documents that have a tag. -/
def inboxConfig : Config := { processing := { requiredTags := ["inbox"], jobs := 2 } }

def inboxConfigJson : Json :=
  .obj [("processing", .obj [("required_tags", .arr [.str "inbox"]), ("jobs", .int 2)])]

/-- A pattern for letters. -/
def letterPattern : Pattern := { name := "Letter", checks := [.documentType "Letter"] }

def letterPatternJson : Json :=
  .obj [("name", .str "Letter"),
    ("checks", .arr [.obj [("type", .str "document_type"), ("name", .str "Letter")]])]

/-- A document of a type that has the tag. -/
def taggedDocument (id : Nat) (documentType : String) : Document :=
  { id, documentType, tags := ["inbox"] }

def taggedJson (id : Nat) (documentType : String) : Json :=
  .obj [("id", .ofNat id), ("document_type", .str documentType), ("tags", .arr [.str "inbox"])]

/-- A letter, a text that is no document, a document without the tag, and a bill. -/
def inbox (schedule : Nat → Nat) : Disk where
  items := [
    (["config.json"], .file inboxConfigJson.compact),
    (["letter.json"], .file letterPatternJson.compact),
    (["in"], .folder),
    (["in", "a.json"], .file (taggedJson 1 "Letter").compact),
    (["in", "b.json"], .file "no document"),
    (["in", "c.json"], .file (Json.obj [("id", .int 2)]).compact),
    (["in", "d.json"], .file (taggedJson 3 "Bill").compact)]
  schedule

def inboxPaths : List String := ["in/a.json", "in/b.json", "in/c.json", "in/d.json"]

/-- As many workers as the configuration has are to classify the documents. -/
def inboxRequest (continueOnError : Bool) : BatchRequest where
  patterns := "letter.json"
  documents := "in/*.json"
  catalog := none
  jobs := none
  output := some "results.json"
  continueOnError

/-- The first task that can go on goes on, or another one at each step. -/
def inboxSchedules : List (Nat → Nat) := [fun _ => 0, fun step => step]

theorem within_inbox :
    inboxConfigJson.Within Json.ReadsBack ∧ letterPatternJson.Within Json.ReadsBack := by
  have hjobs : (2 : Int) < twoTo 64 := by decide
  constructor <;>
    simp [inboxConfigJson, letterPatternJson, Json.Within, Json.WithinMembers, Json.WithinAll,
      hjobs]

theorem load_inboxConfig : Config.load inboxConfigJson.compact = .ok inboxConfig := by
  have hread : Json.read? inboxConfigJson.compact = some inboxConfigJson :=
    (Json.read?_compact within_inbox.1).trans (if_pos (by decide))
  have husable : inboxConfig.Usable :=
    Config.usable_iff.mpr ⟨(Config.usable_iff.mp Config.usable_default).1, by decide⟩
  rw [Config.load, readAs_of_read? hread (a := inboxConfig) rfl]
  exact husable

/-- What the disk says about its files, and that there are no results, under each schedule. -/
theorem disk_inbox : ∀ schedule ∈ inboxSchedules,
    let d := inbox schedule
    let found (pattern : String) := (Glob.readPath pattern).toOption.map fun p =>
      ((Glob.search p : StateM Disk (List String)) d).1.filter Path.isJson
    ((d.read "config.json").toOption = some inboxConfigJson.compact ∧
      (d.read "letter.json").toOption = some letterPatternJson.compact) ∧
    (found "letter.json" = some ["letter.json"] ∧ found "in/*.json" = some inboxPaths) ∧
    ((d.read "in/a.json").toOption = some (taggedJson 1 "Letter").compact ∧
      (d.read "in/b.json").toOption = some "no document" ∧
      (d.read "in/c.json").toOption = some (Json.obj [("id", .int 2)]).compact ∧
      (d.read "in/d.json").toOption = some (taggedJson 3 "Bill").compact) ∧
    (d.place "results.json").toOption = some ["results.json"] ∧
      d.item? ["results.json"] ≠ some .folder := by
  decide +kernel

theorem ordered_inboxPaths : Ordered inboxPaths := by
  show inboxPaths.Pairwise _
  decide +kernel

theorem ready_inbox (continueOnError : Bool) {schedule : Nat → Nat}
    (h : schedule ∈ inboxSchedules) :
    Ready (some "config.json") (inboxRequest continueOnError) (inbox schedule) inboxConfig
      ["letter.json"] inboxPaths [letterPattern] none := by
  obtain ⟨⟨hconfig, hpattern⟩, ⟨hpatterns, hdocuments⟩, -⟩ := disk_inbox schedule h
  obtain ⟨p, hp, hpatterns⟩ := Option.map_eq_some_iff.mp hpatterns
  obtain ⟨q, hq, hdocuments⟩ := Option.map_eq_some_iff.mp hdocuments
  have hletter : (inbox schedule).json Pattern.ofJson "letter.json" = .ok letterPattern :=
    json_compact (ok_of_toOption hpattern) within_inbox.2 (by decide) rfl
  refine ⟨seen_loadConfig_some (ok_of_toOption hconfig) load_inboxConfig,
    seen_expand (ok_of_toOption hp) hpatterns (List.pairwise_singleton _ _) (by decide),
    seen_expand (ok_of_toOption hq) hdocuments ordered_inboxPaths (by decide), ?_, rfl⟩
  rw [List.mapM_cons, hletter]
  rfl

/-- All documents but the second one can be read. -/
theorem json_inbox {schedule : Nat → Nat} (h : schedule ∈ inboxSchedules) :
    (inbox schedule).json Document.ofJson "in/a.json" = .ok (taggedDocument 1 "Letter") ∧
      (inbox schedule).json Document.ofJson "in/b.json" = .error "Invalid JSON in in/b.json" ∧
      (inbox schedule).json Document.ofJson "in/c.json" = .ok { id := 2 } ∧
      (inbox schedule).json Document.ofJson "in/d.json" = .ok (taggedDocument 3 "Bill") := by
  obtain ⟨-, -, ⟨ha, hb, hc, hd⟩, -⟩ := disk_inbox schedule h
  have htagged (id : Nat) (hid : id < 4) (documentType : String) :
      (taggedJson id documentType).Within Json.ReadsBack :=
    ⟨⟨by omega, by have : (4 : Int) < twoTo 64 := by decide
                   omega⟩, trivial, ⟨trivial, trivial⟩, trivial⟩
  exact ⟨json_compact (ok_of_toOption ha) (htagged 1 (by decide) _) (by decide) rfl,
    json_invalid (ok_of_toOption hb) rfl,
    json_compact (ok_of_toOption hc) ⟨⟨by decide, by decide⟩, trivial⟩ (by decide) rfl,
    json_compact (ok_of_toOption hd) (htagged 3 (by decide) _) (by decide) rfl⟩

/-! ## The results of a batch -/

/-- Batches give what the documents give one after the other, both in the order of their paths.
If all documents can be read, or the batch is to go on, then the results of all that can be read are
put into the output file and reported. Otherwise the batch fails at the first document that cannot
be read, and nothing is changed. The schedule of the disk, which is any, has no part in it. -/
theorem batch_classifies (h : Ready config r d c patternPaths documentPaths ps catalog)
    (hworkers : max 1 (r.jobs.getD c.processing.jobs) ≤ maxWorkers) :
    let v : Evaluator := { config := c, catalog }
    let documents := documentPaths.filterMap fun path => (d.json Document.ofJson path).toOption
    let done := on (Invocation.run ⟨config, .batch r⟩) {} d
    Ordered patternPaths ∧ Ordered documentPaths ∧
      ((r.continueOnError = true ∨
          ∀ path ∈ documentPaths, ∃ document, d.json Document.ofJson path = .ok document) →
        ∃ b : Batch, b.tally = v.classifyAll ps documents ∧
          b.skipped = documents.countP (fun document => !v.accepts document) ∧
          (r.output = none →
            done = ((.ok (), .lines {} (foundLine ps documentPaths :: b.report d.elapsed)), d)) ∧
          (∀ path e, r.output = some path → d.write path b.tally.toJson.pretty = .ok e →
            e.read path = .ok b.tally.toJson.pretty ∧
              done = ((.ok (), .lines {} (foundLine ps documentPaths ::
                ("✓ Results written to " ++ path) :: b.report e.elapsed)), e)) ∧
          ∀ path fault, r.output = some path → d.write path b.tally.toJson.pretty = .error fault →
            done.1.1 = .error (.message fault.message) ∧ done.2 = d) ∧
      (r.continueOnError = false → ∀ before path after error,
        documentPaths = before ++ path :: after →
        (∀ path ∈ before, ∃ document, d.json Document.ofJson path = .ok document) →
        d.json Document.ofJson path = .error error →
        done.1.1 = .error (.message ("Processing failed for " ++ path ++ ": " ++ error)) ∧
          done.2 = d) := by
  intro v documents done
  have hone : 0 < max 1 (r.jobs.getD c.processing.jobs) := lt_max_of_lt_left Nat.one_pos
  have hseen := seen_classifyFiles (d := d) { config := c, catalog } r ps hworkers documentPaths
  refine ⟨expand_ordered h.patternsFound, expand_ordered h.documentsFound, fun hall => ?_,
    fun hstop before path after error hpaths hbefore hpath => ?_⟩
  · have hfailures : r.continueOnError = true ∨ Batch.failures (filesAt d documentPaths) = [] :=
      hall.imp_right failures_filesAt_eq_nil
    let b : Batch := {
      tally := v.classifyAll ps documents
      skipped := documents.countP fun document => !v.accepts document
      failed := Batch.failures (filesAt d documentPaths) }
    have hdone : done = on (showBatch r.output b) (.lines {} [foundLine ps documentPaths]) d := by
      rw [Batch.run_ok hone _ hfailures, documents_filesAt] at hseen
      refine (batch_on h).trans ?_
      rw [hseen]
      rfl
    rw [on_showBatch] at hdone
    refine ⟨b, rfl, rfl, fun hnone => ?_, fun path e hpath hwrite => ?_,
      fun path fault hpath hwrite => ?_⟩
    · simp only [hdone, hnone, Printed.lines_cons]
    · refine ⟨Disk.read_write hwrite, ?_⟩
      simp only [hdone, hpath, hwrite, Printed.lines_cons]
    · simp only [hdone, hpath, hwrite, and_self]
  · have hfailures := failures_filesAt_first after hbefore hpath
    have hdone : done = ((.error (.message ("Processing failed for " ++ path ++ ": " ++ error)),
        .lines {} [foundLine ps documentPaths]), d) := by
      rw [hpaths, hstop, Batch.run_error hone _ hfailures] at hseen
      refine (batch_on h).trans ?_
      rw [hpaths, hseen]
      rfl
    rw [hdone]
    exact ⟨rfl, rfl⟩

/-- Of four documents the first one matches, the second one cannot be read, the third one is skipped
and the last one does not match, whichever task goes on at each step. Without the order to go on the
batch stops at the second one. -/
theorem batch_classifies_inbox :
    (∀ continueOnError : Bool,
      max 1 ((inboxRequest continueOnError).jobs.getD inboxConfig.processing.jobs) ≤ maxWorkers) ∧
      ∀ schedule ∈ inboxSchedules,
        (∃ b e, b.tally.matched = [(1, ["Letter"])] ∧ b.tally.unmatched = [⟨3, ""⟩] ∧
            b.tally.errors = [] ∧ b.skipped = 1 ∧
            e.read "results.json" = .ok b.tally.toJson.pretty ∧
            on (Invocation.run ⟨some "config.json", .batch (inboxRequest true)⟩) {}
                (inbox schedule) =
              ((.ok (), .lines {} (foundLine [letterPattern] inboxPaths ::
                "✓ Results written to results.json" :: Batch.report b e.elapsed)), e)) ∧
          (on (Invocation.run ⟨some "config.json", .batch (inboxRequest false)⟩) {}
              (inbox schedule)).1.1 =
            .error (.message "Processing failed for in/b.json: Invalid JSON in in/b.json") ∧
          (on (Invocation.run ⟨some "config.json", .batch (inboxRequest false)⟩) {}
            (inbox schedule)).2 = inbox schedule := by
  have hworkers (continueOnError : Bool) :
      max 1 ((inboxRequest continueOnError).jobs.getD inboxConfig.processing.jobs) ≤
        maxWorkers := by
    cases continueOnError <;> decide
  refine ⟨hworkers, fun schedule hmem => ⟨?_, ?_⟩⟩
  · obtain ⟨ha, hb, hc, hd⟩ := json_inbox hmem
    have hdocuments : (inboxPaths.filterMap fun path =>
        ((inbox schedule).json Document.ofJson path).toOption) =
          [taggedDocument 1 "Letter", { id := 2 }, taggedDocument 3 "Bill"] := by
      simp [inboxPaths, ha, hb, hc, hd, Except.toOption]
    obtain ⟨-, -, hall, -⟩ := batch_classifies (ready_inbox true hmem) (hworkers true)
    obtain ⟨b, htally, hskipped, -, hwritten, -⟩ := hall (.inl rfl)
    obtain ⟨-, -, -, hplace, hitem⟩ := disk_inbox schedule hmem
    obtain ⟨e, hwrite⟩ : ∃ e, (inbox schedule).write "results.json" b.tally.toJson.pretty = .ok e :=
      ⟨_, Disk.write_ok.mpr ⟨_, ok_of_toOption hplace, hitem, rfl⟩⟩
    obtain ⟨hread, hdone⟩ := hwritten "results.json" e rfl hwrite
    have htold : b.tally.matched = [(1, ["Letter"])] ∧ b.tally.unmatched = [⟨3, ""⟩] ∧
        b.tally.errors = [] ∧ b.skipped = 1 := by
      rw [htally, hskipped, hdocuments]
      decide +kernel
    obtain ⟨hmatched, hunmatched, herrors, hskipped⟩ := htold
    exact ⟨b, e, hmatched, hunmatched, herrors, hskipped, hread, hdone⟩
  · obtain ⟨ha, hb, -, -⟩ := json_inbox hmem
    obtain ⟨-, -, -, hstop⟩ := batch_classifies (ready_inbox false hmem) (hworkers false)
    have hbefore : ∀ path ∈ ["in/a.json"],
        ∃ document, (inbox schedule).json Document.ofJson path = .ok document :=
      List.forall_mem_singleton.mpr ⟨_, ha⟩
    have hmessage : "Processing failed for " ++ "in/b.json" ++ ": " ++ "Invalid JSON in in/b.json" =
        "Processing failed for in/b.json: Invalid JSON in in/b.json" := rfl
    obtain ⟨hfailed, hdisk⟩ := hstop rfl ["in/a.json"] "in/b.json" ["in/c.json", "in/d.json"]
      "Invalid JSON in in/b.json" rfl hbefore hb
    rw [hmessage] at hfailed
    exact ⟨hfailed, hdisk⟩

/-- One worker too many for one document, which can be read: there is no file with results. -/
theorem batch_stops_letter :
    (∀ path ∈ ["letter.json"], ∃ document, shelf.json Document.ofJson path = .ok document) ∧
      (∃ printed, on (Invocation.run ⟨none, .batch (shelfRequest (maxWorkers + 1))⟩) {} shelf =
        ((.error (.panic tooManyWorkers), printed), shelf)) ∧
      ∀ text, shelf.read "results.json" ≠ .ok text := by
  have hstop (jobs : Nat) (hjobs : maxWorkers < jobs) :
      on (Invocation.run ⟨none, .batch (shelfRequest jobs)⟩) {} shelf =
        ((.error (.panic tooManyWorkers),
          .lines {} [foundLine [{ name := "Blank" }] ["letter.json"]]), shelf) :=
    batch_panics (ready_shelf jobs) (lt_max_of_lt_right hjobs)
  obtain ⟨-, -, -, -, -, -, -, hnone⟩ := disk_shelf
  refine ⟨by simp [json_shelf.2], ⟨_, hstop _ (Nat.lt_succ_self maxWorkers)⟩, fun text htext => ?_⟩
  rw [htext] at hnone
  cases hnone

end Dossier.CommandLine
