import Dossier.Batch
import Dossier.Number.Digits
import Dossier.Report.Section

/-!
# Reports on batches

* `Batch.report` : what became of many document files, in words.
-/

namespace Dossier.Batch

/-- The number of classified documents, with the time it took. -/
def countLine (b : Batch) (time : String) : String :=
  "✓ Classified " ++ natString b.classifiedCount ++ " documents in " ++ time

/-- How the documents fared, in numbers. -/
def numbersLine (b : Batch) : String :=
  "   " ++ natString b.tally.matched.length ++ " matched, " ++
    natString b.tally.unmatched.length ++ " unmatched, " ++
    natString b.tally.errors.length ++ " pattern errors, " ++ natString b.skipped ++ " skipped"

/-- The documents that several patterns matched, a line each. -/
def multiLines (t : Tally) : List String :=
  t.multiMatched.map fun id =>
    "  - " ++ natString id ++ ": " ++ ", ".intercalate ((t.matched.lookup id).getD [])

def errorLine (e : PatternError) : String :=
  "  - " ++ e.document.title ++ " (" ++ natString e.document.id ++ ") / " ++ e.patternName ++
    ": " ++ e.error

def failedLine (f : FailedFile) : String := "  - " ++ f.path ++ ": " ++ f.error

/-- What became of many document files. The time that it took is given. -/
def report (b : Batch) (time : String) : List String :=
  ["", b.countLine time, b.numbersLine] ++
    reportSection "Matched by more than one pattern:" (multiLines b.tally) ++
    reportSection "Pattern errors:" (b.tally.errors.map errorLine) ++
    reportSection "Failed files:" (b.failed.map failedLine)

end Dossier.Batch
