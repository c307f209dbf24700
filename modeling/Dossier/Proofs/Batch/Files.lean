import Dossier.Proofs.Batch.Merging
import Dossier.Proofs.Batch.Parallel

/-!
# Batches of document files

What becomes of many document files does not depend on the number of workers or on when their tasks
finish.

* `Batch.documents`, `Batch.failures` : the files that can be read and those that cannot;
* `Batch.run_ok` : a batch that goes on to the end classifies all documents;
* `Batch.run_error` : any other batch ends at the first file that cannot be read.
-/

namespace Dossier

theorem Evaluator.classifyAll_cons (v : Evaluator) (ps : List Pattern) (d : Document)
    (ds : List Document) : v.classifyAll ps (d :: ds) =
      if v.accepts d then (v.classify ps d).merge (v.classifyAll ps ds)
      else v.classifyAll ps ds := by
  rw [classifyAll_eq, classifyAll_eq]
  split
  · rename_i haccepts
    rw [List.filter_cons_of_pos haccepts, List.map_cons, List.foldl_cons, Tally.empty_merge,
      Tally.foldl_merge]
  · rename_i hskipped
    rw [List.filter_cons_of_neg hskipped]

namespace Batch

variable {v : Evaluator} {ps : List Pattern} {workers : Nat} {keepGoing : Bool} {b : Batch}
  {files : List (String × Except String Document)} {path error : String} {d : Document}

/-- The documents in files that can be read. -/
def documents (files : List (String × Except String Document)) : List Document :=
  files.filterMap fun f => f.2.toOption

/-- The files that cannot be read. -/
def failures (files : List (String × Except String Document)) : List FailedFile :=
  files.filterMap fun f =>
    match f.2 with
    | .ok _ => none
    | .error error => some ⟨f.1, error⟩

@[simp] theorem documents_cons_ok : documents ((path, .ok d) :: files) = d :: documents files := rfl

@[simp] theorem documents_cons_error :
    documents ((path, .error error) :: files) = documents files := rfl

@[simp] theorem failures_cons_ok : failures ((path, .ok d) :: files) = failures files := rfl

@[simp] theorem failures_cons_error :
    failures ((path, .error error) :: files) = ⟨path, error⟩ :: failures files := rfl

/-- What became of the files, one after the other, is added to a batch. -/
def addAll (v : Evaluator) (ps : List Pattern) (keepGoing : Bool)
    (files : List (String × Except String Document)) (b : Batch) : Except FailedFile Batch :=
  (files.map fun f => (f.1, v.classifyFile ps f.2)).foldlM (fun b r => b.add keepGoing r.1 r.2) b

theorem addAll_cons (f : String × Except String Document) :
    addAll v ps keepGoing (f :: files) b =
      b.add keepGoing f.1 (v.classifyFile ps f.2) >>= addAll v ps keepGoing files := rfl

/-- Tasks add up to what the files give one after the other. -/
theorem run_eq (hworkers : 0 < workers) (schedule : Nat → Nat) :
    run v workers schedule keepGoing ps files = addAll v ps keepGoing files {} := by
  rw [run, inParallel_eq hworkers]
  rfl

theorem addAll_ok (h : keepGoing = true ∨ failures files = []) :
    addAll v ps keepGoing files b = .ok {
      tally := b.tally.merge (v.classifyAll ps (documents files))
      skipped := b.skipped + (documents files).countP fun d => !v.accepts d
      failed := b.failed ++ failures files } := by
  induction files generalizing b with
  | nil =>
    show Except.ok b = .ok ⟨b.tally.merge {}, b.skipped + 0, b.failed ++ []⟩
    rw [b.tally.merge_empty, List.append_nil]
    rfl
  | cons f files ih =>
    rw [addAll_cons]
    obtain ⟨path, error | d⟩ := f
    · have hgoing : keepGoing = true := h.resolve_right (List.cons_ne_nil _ _)
      show b.add keepGoing path (.failed error) >>= _ = _
      rw [add, if_pos hgoing]
      exact (ih (.inl hgoing)).trans (by simp)
    · show b.add keepGoing path (if v.accepts d then .classified (v.classify ps d) else .skipped) >>=
        _ = _
      rw [documents_cons_ok, v.classifyAll_cons]
      by_cases haccepts : v.accepts d = true
      · rw [if_pos haccepts, if_pos haccepts]
        refine (ih h).trans ?_
        rw [Tally.merge_assoc, List.countP_cons_of_neg (by simp [haccepts])]
        rfl
      · rw [if_neg haccepts, if_neg haccepts]
        refine (ih h).trans ?_
        rw [List.countP_cons_of_pos (by simp [haccepts])]
        simp [Nat.add_assoc, Nat.add_comm]

/-- All documents that can be read are classified. -/
theorem run_ok (hworkers : 0 < workers) (schedule : Nat → Nat)
    (h : keepGoing = true ∨ failures files = []) :
    run v workers schedule keepGoing ps files = .ok {
      tally := v.classifyAll ps (documents files)
      skipped := (documents files).countP fun d => !v.accepts d
      failed := failures files } := by
  rw [run_eq hworkers, addAll_ok h]
  simp [Tally.empty_merge]

theorem addAll_error {f : FailedFile} {rest : List FailedFile} (h : failures files = f :: rest) :
    addAll v ps false files b = .error f := by
  induction files generalizing b with
  | nil => cases h
  | cons file files ih =>
    rw [addAll_cons]
    obtain ⟨path, error | d⟩ := file
    · obtain ⟨rfl, -⟩ := List.cons.inj h
      rfl
    · show b.add false path (if v.accepts d then .classified (v.classify ps d) else .skipped) >>=
        _ = _
      split
      · exact ih h
      · exact ih h

/-- The first file that cannot be read is the end unless the batch is to go on. -/
theorem run_error (hworkers : 0 < workers) (schedule : Nat → Nat) {f : FailedFile}
    {rest : List FailedFile} (h : failures files = f :: rest) :
    run v workers schedule false ps files = .error f := by
  rw [run_eq hworkers, addAll_error h]

end Batch

end Dossier
