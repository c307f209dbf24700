import Dossier.Storage.Disk
import Dossier.Storage.Search
import Mathlib.Data.List.Lex
import Mathlib.Data.Prod.Lex
import Mathlib.Data.String.Basic

/-!
# Searching a disk

* `Path.partsBefore_iff` : the order of paths as a lexicographic order;
* `Glob.jsonFiles_ordered` : the paths that are found are in order;
* `Disk.Still` : what leaves the disk as it is, and `Glob.still_jsonFiles` : searching does.
-/

namespace Dossier

/-! ## The order of paths -/

namespace Path

/-- What decides between two names, in lexicographic order. -/
def nameKey (name : String) : Nat ×ₗ String := toLex (rank name, name)

theorem nameKey_lt {a b : String} : nameKey a < nameKey b ↔
    rank a < rank b ∨ rank a = rank b ∧ a < b := Prod.Lex.toLex_lt_toLex

theorem nameKey_inj {a b : String} : nameKey a = nameKey b ↔ a = b := by
  constructor
  · exact fun h => congrArg (fun k => (ofLex k).2) h
  · exact congrArg nameKey

/-- Rows of names are in lexicographic order. -/
theorem partsBefore_iff {as bs : List String} :
    partsBefore as bs = true ↔ as.map nameKey < bs.map nameKey := by
  induction as generalizing bs with
  | nil => cases bs <;> simp [partsBefore]
  | cons a as ih =>
    cases bs with
    | nil => simp [partsBefore]
    | cons b bs =>
      rw [partsBefore, List.map_cons, List.map_cons, List.cons_lt_cons_iff, nameKey_inj]
      split
      · rename_i heq
        subst heq
        simp [ih]
      · rename_i hne
        rw [nameKey_lt]
        simp [hne]

/-- Neither path comes before a path that it does not come after. -/
theorem isBefore_eq_false_iff {a b : String} :
    isBefore b a = false ↔ (parts a).map nameKey ≤ (parts b).map nameKey := by
  rw [← Bool.not_eq_true, isBefore, partsBefore_iff, not_lt]

end Path

/-- The paths stand in order. -/
def Ordered (paths : List String) : Prop :=
  paths.Pairwise fun a b => Path.isBefore b a = false

theorem ordered_mergeSort (paths : List String) :
    Ordered (paths.mergeSort fun a b => !Path.isBefore b a) := by
  refine (List.pairwise_mergeSort ?_ ?_ paths).imp fun {a b} h => ?_
  · intro a b c hab hbc
    simp only [Bool.not_eq_true', Path.isBefore_eq_false_iff] at hab hbc ⊢
    exact hab.trans hbc
  · intro a b
    simp only [Bool.or_eq_true, Bool.not_eq_true', Path.isBefore_eq_false_iff]
    exact le_total _ _
  · exact Bool.not_eq_true' _ ▸ h

/-! ## Looking at the disk -/

namespace Disk

variable {α β : Type}

/-- The disk is left as it is. -/
def Still (x : StateM Disk α) : Prop := ∀ d, (x d).2 = d

theorem Still.pure (a : α) : Still (pure a) := fun _ => rfl

theorem Still.bind {x : StateM Disk α} {f : α → StateM Disk β} (h : Still x)
    (hf : ∀ a, Still (f a)) : Still (x >>= f) := by
  intro d
  show (f (x d).1 (x d).2).2 = d
  rw [hf, h]

theorem Still.ite {c : Prop} [Decidable c] {x y : StateM Disk α} (hx : Still x) (hy : Still y) :
    Still (if c then x else y) := by
  split
  · exact hx
  · exact hy

theorem Still.mapM {f : α → StateM Disk β} (h : ∀ a, Still (f a)) (as : List α) :
    Still (as.mapM f) := by
  induction as with
  | nil => exact .pure []
  | cons a as ih =>
    rw [List.mapM_cons]
    exact (h a).bind fun b => ih.bind fun bs => .pure (b :: bs)

end Disk

namespace Glob

open Disk

section Folder

variable {folders : Bool} {next : List (List Token) → String → StateM Disk (List String)}

theorem still_isFolder (path : String) : Still (isFolder path) := fun _ => rfl

theorem still_settle (h : ∀ names folder, Still (next names folder)) (rest : List (List Token))
    (path : String) : Still (settle folders next rest path) :=
  .ite ((still_isFolder path).bind fun _ => .pure _) (h rest path)

theorem still_fit (h : ∀ names folder, Still (next names folder)) (patterns : List (List Token))
    (path name : String) : Still (fit folders next patterns path name) := by
  cases patterns with
  | nil => exact .pure []
  | cons tokens rest => exact .ite (still_settle h rest path) (.pure [])

theorem still_visit (h : ∀ names folder, Still (next names folder)) (tokens : List Token)
    (rest : List (List Token)) (path name : String) :
    Still (visit folders next tokens rest path name) := by
  refine .ite ?_ (still_fit h _ path name)
  refine (still_isFolder path).bind fun found => .ite ?_ (still_fit h _ path name)
  refine (h _ path).bind fun inside => .ite ?_ ?_
  · exact .pure _
  · exact (still_fit h _ path name).bind fun here => .pure _

theorem still_searchFolder (h : ∀ names folder, Still (next names folder)) (tokens : List Token)
    (rest : List (List Token)) (folder : String) :
    Still (searchFolder folders next tokens rest folder) := by
  unfold searchFolder
  split
  · refine .ite ?_ ?_
    · refine (still_isFolder folder).bind fun found => ?_
      exact .ite (still_settle h rest _) (.pure [])
    · refine Still.bind (fun _ => rfl) fun found => ?_
      exact .ite (still_settle h rest _) (.pure [])
  · refine (still_isFolder folder).bind fun found => .ite ?_ (.pure [])
    refine Still.bind (fun _ => rfl) fun names => ?_
    refine (Still.mapM (fun name => still_visit h tokens rest _ name) names).bind fun found => ?_
    exact (Still.mapM (fun name => still_settle h rest _) _).bind fun around => .pure _

end Folder

theorem still_searchFrom (folders : Bool) (bound : Nat) (names : List (List Token))
    (folder : String) : Still (searchFrom folders bound names folder) := by
  induction bound generalizing names folder with
  | zero => exact .pure []
  | succ bound ih =>
    cases names with
    | nil => exact .pure []
    | cons tokens rest => exact still_searchFolder ih tokens rest folder

theorem still_jsonFiles (p : PathPattern) : Still (jsonFiles p) :=
  (still_searchFrom p.folders maxNames p.names _).bind fun _ => .pure _

/-- The paths that are found stand in order. -/
theorem jsonFiles_ordered (p : PathPattern) (d : Disk) :
    Ordered ((jsonFiles p : StateM Disk (List String)) d).1 :=
  ordered_mergeSort _

/-- Paths that are found in order stay in this order. -/
theorem jsonFiles_of_ordered {p : PathPattern} {d : Disk} {paths : List String}
    (hfound : ((search p : StateM Disk (List String)) d).1.filter Path.isJson = paths)
    (hordered : Ordered paths) : ((jsonFiles p : StateM Disk (List String)) d).1 = paths := by
  show (((search p : StateM Disk (List String)) d).1.filter Path.isJson).mergeSort _ = paths
  rw [hfound]
  exact List.mergeSort_of_pairwise (hordered.imp fun h => by rw [h]; rfl)

end Glob

end Dossier
