import Dossier.Storage.Disk
import Dossier.Proofs.Entries

/-!
# Files on a disk

What is written to a file is read from it. Making folders changes nothing that is there.

* `Disk.read_write` : a file that was written;
* `Disk.Extends` : a disk with all that stands on another one;
* `Disk.extends_createFolders` : the disk with more folders;
* `Disk.write_of_read` : a file that can be read can be written.
-/

namespace Dossier.Disk

variable {d e : Disk} {place target : List String} {item : DiskItem} {names : List String}
  {name path text : String}

/-! ## Items -/

theorem item?_put (h : place ≠ []) : (d.put place item).item? place = some item := by
  rw [item?, List.isEmpty_eq_false_iff.mpr h]
  exact List.lookup_cons_self

theorem item?_put_of_ne (h : target ≠ place) :
    (d.put place item).item? target = d.item? target := by
  have hother (i : List String × DiskItem) (hi : target ≠ i.1) (items) :
      (i :: items).lookup target = items.lookup target := by
    rw [List.lookup_cons, beq_eq_false_iff_ne.mpr hi]
  have hothers : (d.items.filter fun i => i.1 != place).lookup target = d.items.lookup target := by
    induction d.items with
    | nil => rfl
    | cons i items ih =>
      by_cases hi : i.1 = place
      · rw [List.filter_cons_of_neg (by simp [hi]), ih, hother i (hi ▸ h)]
      · rw [List.filter_cons_of_pos (by simp [hi]), List.lookup_cons, List.lookup_cons, ih]
  unfold item?
  split
  · rfl
  · exact (hother (place, item) h _).trans hothers

/-! ## Ways to files -/

/-- The place that a name leads to. -/
def enter (place : List String) (name : String) : List String :=
  if name = "" ∨ name = "." then place
  else if name = ".." then place.dropLast
  else place ++ [name]

/-- A name leads on from a folder only. -/
theorem walk_cons : d.walk place (name :: names) = .ok target ↔
    d.item? place = some .folder ∧ d.walk (enter place name) names = .ok target := by
  rw [walk]
  cases d.item? place with
  | none => simp
  | some item =>
    cases item with
    | file text => simp
    | folder =>
      unfold enter
      simp only [true_and]
      split_ifs <;> rfl

/-- A way leads through folders only, and not through what is none. -/
theorem walk_put (h : d.walk place names = .ok target) (hitem : d.item? target ≠ some .folder) :
    (d.put target item).walk place names = .ok target := by
  induction names generalizing place with
  | nil => exact h
  | cons name names ih =>
    obtain ⟨hfolder, h⟩ := walk_cons.mp h
    have hne : place ≠ target := by
      rintro rfl
      exact hitem hfolder
    exact walk_cons.mpr ⟨(item?_put_of_ne hne).trans hfolder, ih h⟩

theorem place_ok : d.place path = .ok target ↔
    path ≠ "" ∧ d.walk (d.startOf path) (Path.pieces path) = .ok target := by
  unfold Disk.place
  split_ifs with h
  · simp [h]
  · simp [h]

theorem read_ok : d.read path = .ok text ↔
    ∃ place, d.place path = .ok place ∧ d.item? place = some (.file text) := by
  unfold Disk.read
  cases d.place path with
  | error fault => simp [bind, Except.bind]
  | ok place =>
    simp only [bind, Except.bind]
    cases hitem : d.item? place with
    | none => simp [hitem]
    | some item => cases item <;> simp [hitem]

theorem write_ok : d.write path text = .ok e ↔
    ∃ place, d.place path = .ok place ∧ d.item? place ≠ some .folder ∧
      e = d.put place (.file text) := by
  unfold Disk.write
  cases d.place path with
  | error fault => simp [bind, Except.bind]
  | ok place =>
    simp only [bind, Except.bind]
    cases hitem : d.item? place with
    | none => simp [hitem, eq_comm]
    | some item => cases item <;> simp [hitem, eq_comm]

/-- What was written to a file is read from it. -/
theorem read_write (h : d.write path text = .ok e) : e.read path = .ok text := by
  obtain ⟨place, hplace, hitem, rfl⟩ := write_ok.mp h
  obtain ⟨hpath, hwalk⟩ := place_ok.mp hplace
  have hroot : place ≠ [] := by
    rintro rfl
    exact hitem rfl
  exact read_ok.mpr ⟨place, place_ok.mpr ⟨hpath, walk_put hwalk hitem⟩, item?_put hroot⟩

theorem configFolder_write (h : d.write path text = .ok e) : e.configFolder = d.configFolder := by
  obtain ⟨place, -, -, rfl⟩ := write_ok.mp h
  rfl

/-! ## Folders -/

/-- A disk on which all that stands on another one stands at the same places. -/
structure Extends (e d : Disk) : Prop where
  item : ∀ place item, d.item? place = some item → e.item? place = some item
  workingFolder : e.workingFolder = d.workingFolder
  configFolder : e.configFolder = d.configFolder

theorem Extends.refl (d : Disk) : d.Extends d := ⟨fun _ _ h => h, rfl, rfl⟩

theorem Extends.trans {f : Disk} (h : f.Extends e) (h' : e.Extends d) : f.Extends d :=
  ⟨fun place item hitem => h.item place item (h'.item place item hitem),
    h.workingFolder.trans h'.workingFolder, h.configFolder.trans h'.configFolder⟩

theorem extends_put (h : d.item? place = none) : (d.put place item).Extends d := by
  refine ⟨fun target other hother => ?_, rfl, rfl⟩
  have hne : target ≠ place := by
    rintro rfl
    rw [h] at hother
    cases hother
  exact (item?_put_of_ne hne).trans hother

theorem extends_makeFolders (h : d.makeFolders place names = .ok e) : e.Extends d := by
  induction names generalizing d place with
  | nil =>
    cases h
    exact .refl _
  | cons name names ih =>
    rw [makeFolders] at h
    by_cases hstay : name = "" ∨ name = "."
    · rw [if_pos hstay] at h
      exact ih h
    by_cases hup : name = ".."
    · rw [if_neg hstay, if_pos hup] at h
      exact ih h
    rw [if_neg hstay, if_neg hup] at h
    simp only at h
    split at h
    · rename_i hnone
      exact (ih h).trans (extends_put hnone)
    · exact ih h
    · cases h

/-- Making folders changes nothing that is there. -/
theorem extends_createFolders (h : d.createFolders path = .ok e) : e.Extends d :=
  extends_makeFolders h

theorem Extends.walk_ok (h : e.Extends d) (hwalk : d.walk place names = .ok target) :
    e.walk place names = .ok target := by
  induction names generalizing place with
  | nil => exact hwalk
  | cons name names ih =>
    obtain ⟨hfolder, hwalk⟩ := walk_cons.mp hwalk
    exact walk_cons.mpr ⟨h.item place _ hfolder, ih hwalk⟩

theorem Extends.place_ok (h : e.Extends d) (hplace : d.place path = .ok target) :
    e.place path = .ok target := by
  obtain ⟨hpath, hwalk⟩ := Disk.place_ok.mp hplace
  have hstart : e.startOf path = d.startOf path := by rw [startOf, startOf, h.workingFolder]
  exact Disk.place_ok.mpr ⟨hpath, hstart ▸ h.walk_ok hwalk⟩

/-- A file that could be read can be written, whatever folders were made. -/
theorem Extends.write_of_read (h : e.Extends d) (hread : d.read path = .ok text) (other : String) :
    ∃ f, e.write path other = .ok f := by
  obtain ⟨place, hplace, hitem⟩ := read_ok.mp hread
  refine ⟨_, write_ok.mpr ⟨place, h.place_ok hplace, ?_, rfl⟩⟩
  rw [h.item place _ hitem]
  exact fun hfile => DiskItem.noConfusion (Option.some.inj hfile)

/-- A path that cannot be written is none of a file. -/
theorem read_of_write_error {fault : StorageFault} (h : d.write path text = .error fault)
    (other : String) : d.read path ≠ .ok other := by
  intro hread
  obtain ⟨e, hwrite⟩ := (Extends.refl d).write_of_read hread text
  rw [hwrite] at h
  cases h

/-- Something stands at the path of a file that can be read. -/
theorem kind?_of_read (h : d.read path = .ok text) : d.kind? path = some .file := by
  obtain ⟨place, hplace, hitem⟩ := read_ok.mp h
  rw [kind?, hplace]
  simp only [hitem]
  rfl

end Dossier.Disk
