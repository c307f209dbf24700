import Dossier.Proofs.CommandLine.Running
import Dossier.Proofs.Settings
import Dossier.Proofs.Storage.Disk

/-!
# Editing the configuration file

Whatever commands create a configuration file or set values in it, the file can be loaded at any
time. A command that fails leaves the file as it was, and one that sets a value changes nothing away
from its key.

* `Edit` : the commands that write the file, `Edit.run` and `Edit.runAll` : what they do;
* `saveSettings_on` : all that saving can do;
* `Edit.run_rewrites` : all that a command can do;
* `edits_keep_file` : the file after any commands.
-/

namespace Dossier

/-- The text in a file, if there is one. -/
def Disk.file? (d : Disk) (path : String) : Option String := (d.read path).toOption

/-- There is no file, or a configuration can be loaded from it. -/
def Disk.Loadable (d : Disk) (path : String) : Prop :=
  ∃ c, Settings.load (d.file? path) = .ok c

theorem Disk.file?_of_read {d : Disk} {path text : String} (h : d.read path = .ok text) :
    d.file? path = some text := by
  rw [Disk.file?, h]
  rfl

theorem Disk.read_of_file? {d : Disk} {path text : String} (h : d.file? path = some text) :
    d.read path = .ok text := ok_of_toOption h

namespace CommandLine

open Program

variable {d f : Disk} {path key value : String} {failure : Failure} {p p' : Printed} {c : Config}

/-! ## Reading and saving -/

/-- A configuration file is read as what stands in it, and one that is missing as nothing. -/
theorem settingsFile_ok {file : Option String} (h : seen (settingsFile path) d = .ok file) :
    file = d.file? path := by
  rw [seen_settingsFile] at h
  split at h
  · cases hread : d.read path with
    | error fault =>
      rw [hread] at h
      cases h
    | ok text =>
      rw [hread] at h
      cases h
      exact (Disk.file?_of_read hread).symm
  · rename_i hnone
    cases h
    cases hfile : d.file? path with
    | none => rfl
    | some text =>
      rw [Disk.kind?_of_read (Disk.read_of_file? hfile)] at hnone
      exact absurd rfl hnone

/-- Saving makes folders first, then it writes the file as a whole. If it fails, then before it has
changed anything or because the file cannot be written. -/
theorem saveSettings_on (path : String) (c : Config) (p : Printed) (d : Disk) :
    ∃ e, e.Extends d ∧
      ((∃ f, e.write path (Settings.text c) = .ok f ∧
        on (saveSettings path c) p d = ((.ok (), p), f)) ∨
      ∃ failure, on (saveSettings path c) p d = ((.error failure, p), e) ∧
        (e = d ∨ ∃ fault, e.write path (Settings.text c) = .error fault)) := by
  let write : Program (StateM Disk) Unit :=
    liftM (Disk.change fun d => d.write path (Settings.text c)) >>=
      fun r => require (fun _ => "I/O error") r
  have hwritten (e : Disk) (he : e.Extends d) (h : on (saveSettings path c) p d = on write p e) :
      ∃ e, e.Extends d ∧
        ((∃ f, e.write path (Settings.text c) = .ok f ∧
          on (saveSettings path c) p d = ((.ok (), p), f)) ∨
        ∃ failure, on (saveSettings path c) p d = ((.error failure, p), e) ∧
          (e = d ∨ ∃ fault, e.write path (Settings.text c) = .error fault)) := by
    rw [on_change] at h
    refine ⟨e, he, ?_⟩
    cases hfile : e.write path (Settings.text c) with
    | ok f =>
      rw [hfile] at h
      exact .inl ⟨f, rfl, h⟩
    | error fault =>
      rw [hfile] at h
      exact .inr ⟨_, h, .inr ⟨fault, rfl⟩⟩
  cases hparent : Path.parent? path with
  | none =>
    refine hwritten d (.refl d) ?_
    rw [saveSettings, hparent]
    rfl
  | some folder =>
    have hsave := on_change_bind (p := p) (d := d) StorageFault.message
      (fun d => d.createFolders folder) write
    have hprogram : saveSettings path c =
        (liftM (Disk.change fun d => d.createFolders folder) >>=
          fun r => require StorageFault.message r >>= fun _ => write) := by
      rw [saveSettings, hparent]
      rfl
    rw [← hprogram] at hsave
    cases hfolders : d.createFolders folder with
    | ok e =>
      rw [hfolders] at hsave
      exact hwritten e (Disk.extends_createFolders hfolders) hsave
    | error fault =>
      rw [hfolders] at hsave
      exact ⟨d, .refl d, .inr ⟨_, hsave, .inl rfl⟩⟩

/-- A configuration that was saved is in the file. -/
theorem file?_of_saved (h : on (saveSettings path c) p d = ((.ok (), p'), f)) :
    f.file? path = some (Settings.text c) ∧ f.configFolder = d.configFolder := by
  obtain ⟨e, he, ⟨f', hwrite, hon⟩ | ⟨failure, hon, -⟩⟩ := saveSettings_on path c p d
  · rw [hon] at h
    cases h
    exact ⟨Disk.file?_of_read (Disk.read_write hwrite),
      (Disk.configFolder_write hwrite).trans he.configFolder⟩
  · rw [hon] at h
    cases h

/-- If a configuration was not saved, then the file is as it was. -/
theorem file?_of_unsaved (h : on (saveSettings path c) p d = ((.error failure, p'), f)) :
    f.file? path = d.file? path ∧ f.configFolder = d.configFolder := by
  obtain ⟨e, he, ⟨f', hwrite, hon⟩ | ⟨failure, hon, hfailed⟩⟩ := saveSettings_on path c p d
  · rw [hon] at h
    cases h
  · rw [hon] at h
    cases h
    refine ⟨?_, he.configFolder⟩
    rcases hfailed with rfl | ⟨fault, hwrite⟩
    · rfl
    · -- A file that could be read before could be written.
      cases hbefore : d.file? path with
      | some text =>
        obtain ⟨g, hg⟩ := he.write_of_read (Disk.read_of_file? hbefore) (Settings.text c)
        rw [hg] at hwrite
        cases hwrite
      | none =>
        cases hafter : f.file? path with
        | none => rfl
        | some text => exact absurd (Disk.read_of_file? hafter) (Disk.read_of_write_error hwrite text)

/-! ## Commands -/

/-- What becomes of the file at a path: a failure leaves it as it was, and else it is the text of a
configuration of some kind. -/
structure Rewrites (path : String) (good : Config → Prop) (d : Disk)
    (done : Except Failure Unit × Disk) : Prop where
  configFolder : done.2.configFolder = d.configFolder
  failed : ∀ {failure}, done.1 = .error failure → done.2.file? path = d.file? path
  saved : done.1 = .ok () → ∃ c, good c ∧ done.2.file? path = some (Settings.text c)

/-- A program that saves a configuration and then prints a line. -/
theorem rewrites_save {good : Config → Prop} {line : String} (hgood : good c) :
    let done := on (saveSettings path c >>= fun _ => say line) p d
    Rewrites path good d (done.1.1, done.2) := by
  rw [on_bind]
  rcases hon : on (saveSettings path c) p d with ⟨⟨failure | ⟨⟩, p'⟩, f⟩
  · obtain ⟨hfile, hfolder⟩ := file?_of_unsaved hon
    exact ⟨hfolder, fun _ => hfile, fun h => nomatch h⟩
  · obtain ⟨hfile, hfolder⟩ := file?_of_saved hon
    exact ⟨hfolder, (nomatch ·), fun _ => ⟨c, hgood, hfile⟩⟩

/-- A program that fails before it saves anything. -/
theorem rewrites_nothing {good : Config → Prop} : Rewrites path good d (.error failure, d) :=
  ⟨rfl, fun _ => rfl, fun h => nomatch h⟩

theorem createSettings_rewrites (force : Bool) :
    let done := on (createSettings path force) p d
    Rewrites path (· = {}) d (done.1.1, done.2) := by
  show Rewrites path _ d
    ((on (createSettings path force) p d).1.1, (on (createSettings path force) p d).2)
  rw [createSettings, on_bind, looks_fileExists path, seen_fileExists]
  simp only
  split
  · exact rewrites_nothing
  · exact rewrites_save rfl

theorem setSetting_rewrites (key value : String) :
    let done := on (setSetting path key value) p d
    Rewrites path
      (fun c => Settings.set (d.file? path) key (Settings.readValue value) = .ok c) d
      (done.1.1, done.2) := by
  show Rewrites path _ d
    ((on (setSetting path key value) p d).1.1, (on (setSetting path key value) p d).2)
  rw [setSetting, on_bind, looks_settingsFile path]
  cases hfile : seen (settingsFile path) d with
  | error failure => exact rewrites_nothing
  | ok file =>
    obtain rfl := settingsFile_ok hfile
    simp only
    rw [on_bind, on_require]
    cases hset : Settings.set (d.file? path) key (Settings.readValue value) with
    | error fault => exact rewrites_nothing
    | ok c => exact rewrites_save rfl

theorem on_defaultConfigPath :
    on (defaultConfigPath (m := StateM Disk)) p d = ((.ok (d.configPath none), p), d) := rfl

/-- A command that is given no configuration file works on the default one. -/
theorem on_configure (config : Option String) (r : ConfigRequest) :
    on (configure config r) p d = on (configure (some (d.configPath config)) r) p d := by
  cases config with
  | some path => rfl
  | none =>
    refine (on_bind (x := defaultConfigPath)).trans ?_
    rw [on_defaultConfigPath]
    rfl

/-- A command that writes the configuration file. -/
inductive Edit where
  | create (force : Bool)
  | set (key value : String)

namespace Edit

def request : Edit → ConfigRequest
  | create force => .create none force
  | set key value => .set key value

/-- The configurations that a command can save. -/
def Saves (file : Option String) : Edit → Config → Prop
  | create _, c => c = {}
  | set key value, c => Settings.set file key (Settings.readValue value) = .ok c

/-- What a command gives, and the disk after it. -/
def run (config : Option String) (e : Edit) (d : Disk) : Except Failure Unit × Disk :=
  let done := on (Invocation.run ⟨config, .config e.request⟩) {} d
  (done.1.1, done.2)

/-- The disk after commands in turn. -/
def runAll (config : Option String) (d : Disk) (edits : List Edit) : Disk :=
  edits.foldl (fun d e => (e.run config d).2) d

/-- All that a command does with the configuration file. -/
theorem run_rewrites (config : Option String) (e : Edit) (d : Disk) :
    Rewrites (d.configPath config) (e.Saves (d.file? (d.configPath config))) d (e.run config d) := by
  show Rewrites _ _ d
    ((on (configure config e.request) {} d).1.1, (on (configure config e.request) {} d).2)
  rw [on_configure]
  cases e with
  | create force => exact createSettings_rewrites force
  | set key value => exact setSetting_rewrites key value

variable {e : Edit} {edits : List Edit} {config : Option String}

/-- What a command saves is loaded from its text if the inset is read from its own text. -/
theorem Saves.load_text {file : Option String} (h : e.Saves file c)
    (hinset : c.layout.lineTopInset.isFinite = true → Json.ReadsBack c.layout.lineTopInset) :
    Settings.load (some (Settings.text c)) = .ok c := by
  cases e with
  | create force =>
    cases h
    exact Config.load_text Config.bounded_default Config.usable_default
      (hinset Config.usable_default.isFinite)
  | set key value =>
    obtain ⟨hbounded, husable, -⟩ := Settings.set_ok h
    exact Config.load_text hbounded husable (hinset husable.isFinite)

/-- The insets that commands save, one after the other, are read from their own texts. -/
def InsetsReadBack (config : Option String) (d : Disk) (edits : List Edit) : Prop :=
  ∀ before e, before ++ [e] <+: edits →
    ∀ c, e.Saves ((runAll config d before).file? (d.configPath config)) c →
      c.layout.lineTopInset.isFinite = true → Json.ReadsBack c.layout.lineTopInset

theorem insetsReadBack_append :
    InsetsReadBack config d (edits ++ [e]) ↔ InsetsReadBack config d edits ∧
      ∀ c, e.Saves ((runAll config d edits).file? (d.configPath config)) c →
        c.layout.lineTopInset.isFinite = true → Json.ReadsBack c.layout.lineTopInset := by
  constructor
  · intro h
    exact ⟨fun before e hshort => h before e (hshort.trans (List.prefix_append _ _)),
      h edits e (List.prefix_refl _)⟩
  · rintro ⟨hbefore, hlast⟩ before e' hshort
    rcases List.prefix_concat_iff.mp hshort with heq | hshort
    · obtain ⟨rfl, hsame⟩ := List.append_inj' heq rfl
      cases hsame
      exact hlast
    · exact hbefore before e' hshort

theorem runAll_append (config : Option String) (d : Disk) (edits : List Edit) (e : Edit) :
    runAll config d (edits ++ [e]) = (e.run config (runAll config d edits)).2 := by
  rw [runAll, runAll, List.foldl_append]
  rfl

theorem configPath_run (e : Edit) (config : Option String) (d : Disk) :
    (e.run config d).2.configPath config = d.configPath config := by
  rw [Disk.configPath, Disk.configPath, (run_rewrites config e d).configFolder]

theorem configPath_runAll (edits : List Edit) (config : Option String) (d : Disk) :
    (runAll config d edits).configPath config = d.configPath config := by
  induction edits using List.reverseRecOn with
  | nil => rfl
  | append_singleton edits e ih => rw [runAll_append, configPath_run, ih]

/-- One command keeps the file one that can be loaded. -/
theorem run_loadable (hstart : d.Loadable (d.configPath config))
    (hinset : ∀ c, e.Saves (d.file? (d.configPath config)) c →
      c.layout.lineTopInset.isFinite = true → Json.ReadsBack c.layout.lineTopInset) :
    (e.run config d).2.Loadable (d.configPath config) := by
  have hdone := run_rewrites config e d
  cases hresult : (e.run config d).1 with
  | error failure =>
    rw [Disk.Loadable, hdone.failed hresult]
    exact hstart
  | ok _ =>
    obtain ⟨c, hsaves, hfile⟩ := hdone.saved hresult
    rw [Disk.Loadable, hfile]
    exact ⟨c, hsaves.load_text (hinset c hsaves)⟩

/-- So does any number of them. -/
theorem runAll_loadable (hstart : d.Loadable (d.configPath config))
    (hinsets : InsetsReadBack config d edits) :
    (runAll config d edits).Loadable (d.configPath config) := by
  induction edits using List.reverseRecOn with
  | nil => exact hstart
  | append_singleton edits e ih =>
    obtain ⟨hbefore, hlast⟩ := insetsReadBack_append.mp hinsets
    rw [runAll_append, ← configPath_runAll edits config d]
    refine run_loadable ?_ ?_
    · rw [configPath_runAll]
      exact ih hbefore
    · rw [configPath_runAll]
      exact hlast

end Edit

/-! ## Files in the working folder -/

section WorkingFolder

variable {d : Disk} {p : Printed} {path key value t : String} {place : List String} {c : Config}

/-- A configuration is saved in a file of the working folder. -/
theorem saveSettings_here (hplace : d.place path = .ok place) (hparent : Path.parent? path = some "")
    (hitem : d.item? place ≠ some .folder) :
    on (saveSettings path c) p d = ((.ok (), p), d.put place (.file (Settings.text c))) := by
  have hpieces : Path.pieces "" = [""] := by decide +kernel
  have hfolders : d.createFolders "" = .ok d := by
    rw [Disk.createFolders, hpieces]
    rfl
  have hwrite : d.write path (Settings.text c) = .ok _ :=
    Disk.write_ok.mpr ⟨_, hplace, hitem, rfl⟩
  rw [saveSettings, hparent]
  refine (on_change_bind StorageFault.message (fun d => d.createFolders "") _).trans ?_
  rw [hfolders]
  refine (on_change _ fun d => d.write path (Settings.text c)).trans ?_
  rw [hwrite]

theorem create_here (hplace : d.place path = .ok place) (hparent : Path.parent? path = some "")
    (hitem : d.item? place = none) :
    (Edit.create false).run (some path) d = (.ok (), d.put place (.file (Settings.text {}))) := by
  have hkind : d.kind? path = none := by
    rw [Disk.kind?, hplace]
    simp only [hitem]
    rfl
  have hon : on (createSettings path false) {} d =
      on (saveSettings path {} >>= fun _ =>
        say ("✓ Created configuration file at " ++ path)) {} d := by
    rw [createSettings, on_bind, looks_fileExists, seen_fileExists, hkind]
    rfl
  rw [on_bind, saveSettings_here hplace hparent (by simp [hitem])] at hon
  show ((on (createSettings path false) {} d).1.1, (on (createSettings path false) {} d).2) = _
  rw [hon]
  rfl

theorem set_here (hplace : d.place path = .ok place) (hparent : Path.parent? path = some "")
    (hitem : d.item? place = some (.file t))
    (hset : Settings.set (some t) key (Settings.readValue value) = .ok c) :
    (Edit.set key value).run (some path) d =
      (.ok (), d.put place (.file (Settings.text c))) := by
  have hread : d.read path = .ok t := Disk.read_ok.mpr ⟨_, hplace, hitem⟩
  have hfile : seen (settingsFile path) d = .ok (some t) := by
    rw [seen_settingsFile, Disk.kind?_of_read hread, hread]
    rfl
  have hon : on (setSetting path key value) {} d =
      on (saveSettings path c >>= fun _ =>
        say ("✓ Set " ++ key ++ " = " ++ (Settings.readValue value).compact)) {} d := by
    rw [setSetting, on_bind, looks_settingsFile, hfile]
    simp only
    rw [on_bind, on_require, hset]
    rfl
  rw [on_bind, saveSettings_here hplace hparent (by simp [hitem])] at hon
  show ((on (setSetting path key value) {} d).1.1, (on (setSetting path key value) {} d).2) = _
  rw [hon]
  rfl

end WorkingFolder

/-! ## Two commands -/

section TwoCommands

theorem keyParts_jobs : Settings.keyParts "processing.jobs" = ["processing", "jobs"] := by
  decide +kernel

/-- The default settings are loaded from their text. -/
theorem load_text_default : Settings.load (some (Settings.text {})) = .ok {} :=
  Config.load_text Config.bounded_default Config.usable_default readsBack_quarter

/-- From the default settings, the number of jobs can be set. -/
theorem set_jobs {file : Option String} (h : Settings.load file = .ok {}) :
    Settings.set file "processing.jobs" (.int 2) = .ok { processing := { jobs := 2 } } := by
  refine Settings.set_of_replaceAt (j := Settings.tree { processing := { jobs := 2 } }) h ?_ ?_
    (Config.usable_iff.mpr (by decide +kernel))
  · rw [keyParts_jobs, Settings.tree_eq, Settings.tree_eq]
    rfl
  · rw [Settings.tree_eq]
    rfl

/-- The file is created, and then the number of jobs is set. -/
theorem insetsReadBack_create_set {path : String}
    (hcreated : ((Edit.create false).run (some path) {}).2.file? path = some (Settings.text {})) :
    Edit.InsetsReadBack (some path) {} [.create false, .set "processing.jobs" "2"] := by
  have hvalue : Settings.readValue "2" = .int 2 := rfl
  rintro before e hshort c hsaves -
  obtain ⟨rfl, rfl⟩ | ⟨rfl, rfl⟩ : (before = [] ∧ e = .create false) ∨
      (before = [.create false] ∧ e = .set "processing.jobs" "2") := by
    rcases before with _ | ⟨first, _ | ⟨second, before⟩⟩ <;>
      simp [List.cons_prefix_cons] at hshort <;> simp [hshort]
  · cases hsaves
    exact readsBack_quarter
  · change Settings.set (((Edit.create false).run (some path) {}).2.file? path) _ _ = _ at hsaves
    rw [hcreated, hvalue, set_jobs load_text_default] at hsaves
    cases hsaves
    exact readsBack_quarter

/-- Both commands succeed in a working folder in which there is no such file. -/
theorem create_then_set {path : String} {name : List String} (hpath : Path.parent? path = some "")
    (hplace : ∀ d : Disk, d.workingFolder = [] → d.place path = .ok name) (hname : name ≠ []) :
    Disk.Loadable {} path ∧
      ((Edit.create false).run (some path) {}).2.file? path = some (Settings.text {}) ∧
      ((Edit.set "processing.jobs" "2").run (some path)
        ((Edit.create false).run (some path) {}).2).1 = .ok () := by
  have hitem : ({} : Disk).item? name = none := by
    rw [Disk.item?, List.isEmpty_eq_false_iff.mpr hname]
    rfl
  have hcreate := create_here (hplace {} rfl) hpath hitem
  have hwritten : (Disk.put {} name (.file (Settings.text {}))).item? name = some _ :=
    Disk.item?_put hname
  have hread := Disk.read_ok.mpr ⟨name, hplace (Disk.put {} name _) rfl, hwritten⟩
  have hsettings : Settings.set (some (Settings.text {})) "processing.jobs" (Settings.readValue "2") =
      .ok { processing := { jobs := 2 } } := by
    rw [show Settings.readValue "2" = .int 2 from rfl, set_jobs load_text_default]
  have hset := set_here (hplace (Disk.put {} name _) rfl) hpath hwritten hsettings
  rw [hcreate]
  refine ⟨⟨{}, ?_⟩, Disk.file?_of_read hread, congrArg Prod.fst hset⟩
  have hnone : ({} : Disk).file? path = none := by
    refine Option.eq_none_iff_forall_ne_some.mpr fun text hfile => ?_
    obtain ⟨place, hat, htext⟩ := Disk.read_ok.mp (Disk.read_of_file? hfile)
    obtain rfl := Except.ok.inj ((hplace {} rfl).symm.trans hat)
    rw [hitem] at htext
    cases htext
  rw [hnone, Settings.load]

end TwoCommands

/-! ## The file after commands -/

/-- After any commands that create the configuration file or set values in it, the file is one that
can be loaded and used, or there is none. If the last command failed, then the file is as it was
before this command. If it set a value, then it changed nothing in the configuration but at ways
that lead through its key or to it. -/
theorem edits_keep_file {config : Option String} {d : Disk}
    (hstart : d.Loadable (d.configPath config)) (edits : List Edit) (e : Edit)
    (hinsets : Edit.InsetsReadBack config d (edits ++ [e])) :
    let path := d.configPath config
    let before := Edit.runAll config d edits
    let done := e.run config before
    (∃ c, Settings.load (done.2.file? path) = .ok c ∧ c.check = .ok ()) ∧
      (∀ failure, done.1 = .error failure → done.2.file? path = before.file? path) ∧
      (∀ key value, e = .set key value → done.1 = .ok () →
        ∃ c c', Settings.load (before.file? path) = .ok c ∧
          Settings.load (done.2.file? path) = .ok c' ∧
          ∀ way, ¬ Settings.keyParts key <+: way → ¬ way <+: Settings.keyParts key →
            Settings.valueAt? way (Settings.tree c') = Settings.valueAt? way (Settings.tree c)) := by
  intro path before done
  have hloadable : done.2.Loadable path := by
    rw [show done.2 = _ from (Edit.runAll_append config d edits e).symm]
    exact Edit.runAll_loadable hstart hinsets
  have hdone : Rewrites path (e.Saves (before.file? path)) before done := by
    have hpath : before.configPath config = path := Edit.configPath_runAll edits config d
    exact hpath ▸ Edit.run_rewrites config e before
  refine ⟨?_, fun failure => hdone.failed, ?_⟩
  · obtain ⟨c, hload⟩ := hloadable
    exact ⟨c, hload, (Settings.load_file_ok hload).2.check_ok⟩
  · rintro key value rfl hok
    obtain ⟨c', hsaves, hfile⟩ := hdone.saved hok
    obtain ⟨-, -, c, hload, hsame⟩ := Settings.set_ok hsaves
    have hload' := hsaves.load_text (hinsets edits _ (List.prefix_refl _) c' hsaves)
    refine ⟨c, c', hload, hfile ▸ hload', fun way hthrough hto => ?_⟩
    exact (hsame.valueAt? hthrough hto).symm

/-- The number of jobs is set in a new file, and the inset stays. -/
theorem jobs_set_in_created_file :
    let before := Edit.runAll (some "settings.json") {} [.create false]
    let done := (Edit.set "processing.jobs" "2").run (some "settings.json") before
    done.1 = .ok () ∧
      ∃ c c', Settings.load (before.file? "settings.json") = .ok c ∧
        Settings.load (done.2.file? "settings.json") = .ok c' ∧
        Settings.valueAt? ["layout", "line_top_inset"] (Settings.tree c') =
          Settings.valueAt? ["layout", "line_top_inset"] (Settings.tree c) := by
  intro before done
  have hpieces : Path.pieces "settings.json" = ["settings.json"] := by decide +kernel
  have hparent : Path.parent? "settings.json" = some "" := by decide +kernel
  have hplace (d : Disk) (hd : d.workingFolder = []) :
      d.place "settings.json" = .ok ["settings.json"] := by
    rw [Disk.place_ok, hpieces, Disk.startOf, hd, ite_self]
    exact ⟨by decide, Disk.walk_cons.mpr ⟨rfl, rfl⟩⟩
  obtain ⟨hstart, hcreated, hok⟩ := create_then_set hparent hplace (by decide)
  obtain ⟨-, -, hset⟩ := @edits_keep_file (some "settings.json") {} hstart [.create false]
    (.set "processing.jobs" "2") (insetsReadBack_create_set hcreated)
  obtain ⟨c, c', hload, hload', hsame⟩ := hset _ _ rfl hok
  have haway := hsame ["layout", "line_top_inset"] (by rw [keyParts_jobs]; decide)
    (by rw [keyParts_jobs]; decide)
  exact ⟨hok, c, c', hload, hload', haway⟩

end CommandLine

end Dossier
