import Dossier.CommandLine.Run
import Dossier.Proofs.Storage.Disk

/-!
# Programs on disks

What a program gives, prints and leaves behind on a disk, part by part.

* `Program.on` : what a program does on a disk, after something has been printed;
* `on_bind` and so on : the parts of programs;
* `Looks` : a program that only looks at the disk, and `Program.seen` : what it sees there.
-/

namespace Dossier

namespace CommandLine

namespace Program

variable {α β : Type}

/-- What a program does on a disk, after something has been printed: what it gives, all that has
been printed, and the disk. -/
def on (x : Program (StateM Disk) α) (p : Printed) (d : Disk) :
    (Except Failure α × Printed) × Disk := x.run.run p d

section Parts

variable {x : Program (StateM Disk) α} {f : α → Program (StateM Disk) β} {p p' : Printed}
  {d d' : Disk}

@[simp] theorem on_pure (a : α) : on (pure a) p d = ((.ok a, p), d) := rfl

theorem on_bind : on (x >>= f) p d =
    match on x p d with
    | ((.ok a, p'), d') => on (f a) p' d'
    | ((.error failure, p'), d') => ((.error failure, p'), d') := by
  show StateT.run (ExceptT.bindCont f (on x p d).1.1) (on x p d).1.2 (on x p d).2 = _
  obtain ⟨⟨result, p'⟩, d'⟩ := on x p d
  cases result with
  | error failure => rfl
  | ok a => rfl

/-- What is done on the machine prints nothing. -/
theorem on_lift (x : StateM Disk α) : on (liftM x) p d = ((.ok (x d).1, p), (x d).2) := rfl

theorem on_say (line : String) : on (say line) p d =
    ((.ok (), { p with output := p.output ++ line ++ "\n" }), d) := rfl

theorem on_require {ε : Type} (message : ε → String) (r : Except ε α) :
    on (require message r) p d = ((r.mapError fun fault => .message (message fault), p), d) := by
  cases r <;> rfl

/-- A change of the disk is made, or the program fails and leaves the disk as it was. -/
theorem on_change (message : StorageFault → String) (g : Disk → Except StorageFault Disk) :
    on (liftM (Disk.change g) >>= fun r => require message r) p d =
      match g d with
      | .ok e => ((.ok (), p), e)
      | .error fault => ((.error (.message (message fault)), p), d) := by
  rw [on_bind, on_lift]
  show on (require message (Disk.change g d).1) p (Disk.change g d).2 = _
  rw [on_require, Disk.change]
  cases g d <;> rfl

theorem on_change_bind (message : StorageFault → String) (g : Disk → Except StorageFault Disk)
    (x : Program (StateM Disk) α) :
    on (liftM (Disk.change g) >>= fun r => require message r >>= fun _ => x) p d =
      match g d with
      | .ok e => on x p e
      | .error fault => ((.error (.message (message fault)), p), d) := by
  rw [← bind_assoc, on_bind, on_change]
  cases g d <;> rfl

end Parts

/-! ## Programs that only look -/

/-- What a program gives on a disk. -/
def seen (x : Program (StateM Disk) α) (d : Disk) : Except Failure α := (on x {} d).1.1

/-- The program only looks at the disk: it prints nothing, and it changes nothing. -/
def Looks (x : Program (StateM Disk) α) : Prop := ∀ p d, on x p d = ((seen x d, p), d)

section Looks

variable {x : Program (StateM Disk) α} {f : α → Program (StateM Disk) β}

theorem Looks.pure (a : α) : Looks (pure a) := fun _ _ => rfl

theorem Looks.throw (failure : Failure) : Looks (throw failure : Program (StateM Disk) α) :=
  fun _ _ => rfl

theorem Looks.require {ε : Type} (message : ε → String) (r : Except ε α) :
    Looks (require message r) := by
  intro p d
  rw [seen, on_require, on_require]

theorem seen_require {ε : Type} (message : ε → String) (r : Except ε α) (d : Disk) :
    seen (Program.require message r) d = r.mapError fun fault => .message (message fault) := by
  rw [seen, on_require]

theorem Looks.lift {x : StateM Disk α} (h : ∀ d, (x d).2 = d) : Looks (liftM x) := by
  intro p d
  rw [seen, on_lift, on_lift, h]

theorem seen_lift (x : StateM Disk α) (d : Disk) : seen (liftM x) d = .ok (x d).1 := rfl

theorem Looks.seen_bind (h : Looks x) (d : Disk) :
    seen (x >>= f) d = seen x d >>= fun a => seen (f a) d := by
  rw [seen, on_bind, h]
  cases seen x d with
  | error failure => rfl
  | ok a => rfl

theorem Looks.bind (h : Looks x) (hf : ∀ a, Looks (f a)) : Looks (x >>= f) := by
  intro p d
  rw [h.seen_bind, on_bind, h]
  cases seen x d with
  | error failure => rfl
  | ok a => exact hf a p d

theorem Looks.map (h : Looks x) (g : α → β) : Looks (g <$> x) := h.bind fun a => .pure (g a)

theorem Looks.seen_map (h : Looks x) (g : α → β) (d : Disk) : seen (g <$> x) d = (seen x d).map g :=
  (h.seen_bind d).trans (by cases seen x d <;> rfl)

theorem Looks.ite {c : Prop} [Decidable c] {y : Program (StateM Disk) α} (hx : Looks x)
    (hy : Looks y) : Looks (if c then x else y) := by
  split
  · exact hx
  · exact hy

theorem Looks.mapM {f : β → Program (StateM Disk) α} (h : ∀ b, Looks (f b)) (bs : List β) :
    Looks (bs.mapM f) := by
  induction bs with
  | nil => exact .pure []
  | cons b bs ih =>
    rw [List.mapM_cons]
    exact (h b).bind fun a => ih.bind fun as => .pure (a :: as)

theorem seen_mapM {f : β → Program (StateM Disk) α} (h : ∀ b, Looks (f b)) (bs : List β)
    (d : Disk) : seen (bs.mapM f) d = bs.mapM fun b => seen (f b) d := by
  induction bs with
  | nil => rfl
  | cons b bs ih =>
    rw [List.mapM_cons, List.mapM_cons, (h b).seen_bind]
    refine congrArg _ (funext fun a => ?_)
    rw [(Looks.mapM h bs).seen_bind, ih]
    rfl

end Looks

end Program

end CommandLine

/-! ## Files -/

/-- Where the configuration is kept. -/
def Disk.configPath (d : Disk) (config : Option String) : String :=
  config.getD (Path.join (Path.join d.configFolder "dissect") "config.json")

theorem ok_of_toOption {ε α : Type} {r : Except ε α} {a : α} (h : r.toOption = some a) :
    r = .ok a := by
  cases r with
  | error fault => cases h
  | ok b =>
    cases h
    rfl

/-- What stands in a JSON file, or a message. -/
def Disk.json {α : Type} (decode : Json → Decoded α) (d : Disk) (path : String) :
    Except String α :=
  if (d.kind? path).isSome then
    match d.read path with
    | .error fault => .error fault.message
    | .ok text => (readAs decode text).mapError fun _ => "Invalid JSON in " ++ path
  else .error ("File not found: " ++ path)

theorem Disk.json_ok {α : Type} {decode : Json → Decoded α} {d : Disk} {path text : String} {a : α}
    (hread : d.read path = .ok text) (ha : readAs decode text = .ok a) :
    d.json decode path = .ok a := by
  simp only [json, kind?_of_read hread, Option.isSome_some, if_true, hread, ha]
  rfl

namespace CommandLine

open Program

variable {α : Type} {decode : Json → Decoded α} {d : Disk} {path : String}

theorem looks_fileExists (path : String) : Looks (fileExists (m := StateM Disk) path) :=
  .lift fun _ => rfl

theorem seen_fileExists : seen (fileExists path) d = .ok (d.kind? path).isSome := rfl

theorem looks_tryReadJson : Looks (tryReadJson decode path) := by
  refine (looks_fileExists path).bind fun found => .ite ?_ (.pure _)
  refine (Looks.lift fun _ => rfl).bind fun r => ?_
  cases r <;> exact .pure _

theorem seen_tryReadJson : seen (tryReadJson decode path) d = .ok (d.json decode path) := by
  rw [tryReadJson, (looks_fileExists path).seen_bind, seen_fileExists]
  show seen (if (d.kind? path).isSome = true then _ else _) d = _
  unfold Disk.json
  split
  · show seen (liftM (Host.read path : StateM Disk (Except StorageFault String)) >>= _) d = _
    rw [(Looks.lift fun _ => rfl).seen_bind, seen_lift]
    show seen (match d.read path with | .error fault => _ | .ok text => _) d = _
    cases d.read path <;> rfl
  · rfl

theorem looks_readSettings (path : String) : Looks (readSettings (m := StateM Disk) path) :=
  (Looks.lift fun _ => rfl).bind fun r => .require _ r

theorem seen_readSettings :
    seen (readSettings path) d = (d.read path).mapError fun _ => .message "I/O error" := by
  show seen (liftM (Host.read path : StateM Disk (Except StorageFault String)) >>= _) d = _
  rw [(Looks.lift fun _ => rfl).seen_bind, seen_lift]
  exact seen_require _ _ d

theorem looks_settingsFile (path : String) : Looks (settingsFile (m := StateM Disk) path) :=
  (looks_fileExists path).bind fun _ => .ite ((looks_readSettings path).map some) (.pure none)

theorem seen_settingsFile : seen (settingsFile path) d =
    if (d.kind? path).isSome then ((d.read path).mapError fun _ => .message "I/O error").map some
    else .ok none := by
  rw [settingsFile, (looks_fileExists path).seen_bind, seen_fileExists]
  show seen (if (d.kind? path).isSome = true then some <$> readSettings path else pure none) d = _
  split
  · rw [(looks_readSettings path).seen_map, seen_readSettings]
  · rfl

end CommandLine

end Dossier
