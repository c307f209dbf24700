import Dossier.Evaluator

/-!
# Batches of document files

Many documents are classified at the same time, each as a task of its own. Tasks are started in the
order of the documents, no more of them than there are workers, and finish in any order. What they
find is put together in the order of the documents.

* `Pool` : how far the tasks for some items have come;
* `Pool.moves` and `Pool.step` : what can happen next, and what comes of it;
* `Pool.run` : what happens when a schedule chooses;
* `inParallel` : work on many items by several workers, of which there are at most `maxWorkers`;
* `Batch` : what became of many document files;
* `Batch.run` : classifies the documents in them.
-/

namespace Dossier

section Workers

variable {α β : Type}

/-- How far the tasks for some items have come. Each item has its place among all items. -/
structure Pool (α β : Type) where
  /-- The items whose tasks have not been started, in their order. -/
  waiting : List (Nat × α)
  running : List (Nat × α) := []
  /-- What was found, in the order in which the tasks finished. -/
  found : List (Nat × β) := []

/-- What can happen to tasks. -/
inductive Move where
  /-- The next task is started. -/
  | start
  /-- One of the running tasks finishes. -/
  | finish (index : Nat)
deriving DecidableEq, Repr

namespace Pool

/-- No task has been started. -/
def ofItems (items : List α) : Pool α β :=
  { waiting := items.mapIdx fun place a => (place, a) }

/-- All that can happen next: the next task is started if a worker is free, or any running task
finishes. -/
def moves (workers : Nat) (p : Pool α β) : List Move :=
  (if !p.waiting.isEmpty && decide (p.running.length < workers) then [.start] else []) ++
    (List.range p.running.length).map .finish

/-- What comes of it. -/
def step (work : α → β) (p : Pool α β) : Move → Pool α β
  | .start =>
    match p.waiting with
    | [] => p
    | task :: rest => { p with waiting := rest, running := p.running ++ [task] }
  | .finish index =>
    match p.running[index]? with
    | none => p
    | some task =>
      { p with running := p.running.eraseIdx index, found := p.found ++ [(task.1, work task.2)] }

/-- What comes of so many steps when a schedule chooses among all that can happen next. -/
def run (workers : Nat) (work : α → β) (schedule : Nat → Nat) : Nat → Pool α β → Pool α β
  | 0, p => p
  | steps + 1, p =>
    let moves := p.moves workers
    match moves[schedule steps % moves.length]? with
    | none => p
    | some move => run workers work schedule steps (p.step work move)

end Pool

/-- What was found, in the order of the places of the items. -/
def gathered (found : List (Nat × β)) : List β := (entriesOf found).map Prod.snd

/-- Work on many items by a number of workers. Each task is started and finishes. -/
def inParallel (workers : Nat) (schedule : Nat → Nat) (work : α → β) (items : List α) : List β :=
  gathered (Pool.run workers work schedule (2 * items.length) (.ofItems items)).found

/-- The largest number of permits that a semaphore can hand out, and so of workers. -/
def maxWorkers : Nat := twoTo 61 - 1

/-- The text that is shown if there are to be more. -/
def tooManyWorkers : String :=
  "a semaphore may not have more than MAX_PERMITS permits (" ++ natString maxWorkers ++ ")"

end Workers

/-- What became of a document file. -/
inductive FileResult where
  | classified (tally : Tally)
  /-- The document is not to be classified. -/
  | skipped
  | failed (error : String)

/-- A file with the error that it gives. -/
structure FailedFile where
  path : String
  error : String
deriving DecidableEq, Repr

/-- What becomes of a document file that was read or gave an error. -/
def Evaluator.classifyFile (v : Evaluator) (ps : List Pattern) : Except String Document → FileResult
  | .error error => .failed error
  | .ok d => if v.accepts d then .classified (v.classify ps d) else .skipped

/-- What became of many document files. -/
structure Batch where
  tally : Tally := {}
  skipped : Nat := 0
  failed : List FailedFile := []

namespace Batch

/-- Adds what became of one file. A failed file is the end unless the batch is to go on. -/
def add (keepGoing : Bool) (b : Batch) (path : String) : FileResult → Except FailedFile Batch
  | .classified tally => .ok { b with tally := b.tally.merge tally }
  | .skipped => .ok { b with skipped := b.skipped + 1 }
  | .failed error =>
    if keepGoing then .ok { b with failed := b.failed ++ [⟨path, error⟩] } else .error ⟨path, error⟩

/-- Puts together what became of files, in their order. -/
def collect (keepGoing : Bool) (results : List (String × FileResult)) : Except FailedFile Batch :=
  results.foldlM (fun b r => b.add keepGoing r.1 r.2) {}

/-- Classifies the documents in files. -/
def run (v : Evaluator) (workers : Nat) (schedule : Nat → Nat) (keepGoing : Bool)
    (ps : List Pattern) (files : List (String × Except String Document)) :
    Except FailedFile Batch :=
  collect keepGoing (inParallel workers schedule (fun f => (f.1, v.classifyFile ps f.2)) files)

/-- The number of documents that were classified. -/
def classifiedCount (b : Batch) : Nat := b.tally.matched.length + b.tally.unmatched.length

end Batch

end Dossier
