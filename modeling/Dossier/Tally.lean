import Dossier.Entries

/-!
# Results for many documents

* `Tally` : what happened to the documents: errors, matching patterns by document, and documents
  that no pattern matched;
* `Tally.merge` : the results of two sets of documents together;
* `Tally.multiMatched` : the documents that several patterns matched.
-/

namespace Dossier

/-- A document in the results. -/
structure DocumentLabel where
  id : Nat
  title : String
deriving DecidableEq, Repr

/-- A pattern that could not be evaluated without an error. -/
structure PatternError where
  document : DocumentLabel
  patternName : String
  error : String
deriving DecidableEq, Repr

/-- The names of no documents are in order. -/
theorem increasing_noNames : Increasing ([] : List (Nat × List String)) := .nil

/-- The results of a set of documents. -/
structure Tally where
  errors : List PatternError := []
  /-- The names of the matching patterns by document, in the order of the documents' numbers. -/
  matched : List (Nat × List String) := []
  increasing : Increasing matched := by exact increasing_noNames
  unmatched : List DocumentLabel := []
deriving DecidableEq, Repr

namespace Tally

def addError (t : Tally) (document : DocumentLabel) (patternName error : String) : Tally :=
  { t with errors := t.errors ++ [⟨document, patternName, error⟩] }

/-- Adds names to those of a document. -/
def appendNames (id : Nat) (names : List String) (matched : List (Nat × List String)) :
    List (Nat × List String) :=
  updateEntry id (fun old => old.getD [] ++ names) matched

/-- Adds the names of all documents to those of the same documents. -/
def mergeNames (matched other : List (Nat × List String)) : List (Nat × List String) :=
  other.foldl (fun matched m => appendNames m.1 m.2 matched) matched

theorem increasing_appendNames {matched : List (Nat × List String)} (h : Increasing matched)
    (id : Nat) (names : List String) : Increasing (appendNames id names matched) :=
  h.updateEntry id _

theorem increasing_mergeNames {matched : List (Nat × List String)} (h : Increasing matched)
    (other : List (Nat × List String)) : Increasing (mergeNames matched other) := by
  unfold mergeNames
  induction other generalizing matched with
  | nil => exact h
  | cons m other ih => exact ih (increasing_appendNames h m.1 m.2)

def addMatch (t : Tally) (id : Nat) (patternName : String) : Tally :=
  { t with
    matched := appendNames id [patternName] t.matched
    increasing := increasing_appendNames t.increasing id [patternName] }

def addUnmatched (t : Tally) (document : DocumentLabel) : Tally :=
  { t with unmatched := t.unmatched ++ [document] }

/-- The results of two sets of documents together. -/
def merge (s t : Tally) : Tally :=
  { errors := s.errors ++ t.errors
    matched := mergeNames s.matched t.matched
    increasing := increasing_mergeNames s.increasing t.matched
    unmatched := s.unmatched ++ t.unmatched }

/-- The numbers of the documents that more than one pattern matched. -/
def multiMatched (t : Tally) : List Nat :=
  (t.matched.filter fun m => decide (1 < m.2.length)).map Prod.fst

end Tally

end Dossier
