import Dossier.Text.LetterCase
import Mathlib.Data.List.TakeWhile

/-!
# Lower case of a text that goes on

A text is put into lower case character by character, apart from the capital sigma: whether it
becomes the final one depends on the letters around it. So the lower case of a text is the beginning
of the lower case of every text that goes on with it, unless it ends in a sigma that closes a word
there, and the word goes on.

* `endsInSigma` : the texts that end in such a sigma;
* `length_lowercaseFrom_append` : a text that goes on has no shorter lower case;
* `lowercaseFrom_prefix_append` : when the lower case goes on as well.
-/

namespace Dossier.Text

/-- Whether a text ends in a capital sigma that closes a word as long as no cased letter follows: a
cased letter stands in front of it, and nothing that counts behind it. The characters before the
text are given in reverse. -/
def endsInSigma (before : List Char) : List Char → Bool
  | [] => false
  | c :: rest =>
    c == 'Σ' && startsCased before && rest.all caseIgnorable.contains || endsInSigma (c :: before) rest

/-- What does not count decides nothing: the first character that counts may be in the rest. -/
theorem startsCased_append (s t : List Char) :
    startsCased (s ++ t) = (startsCased s || s.all caseIgnorable.contains && startsCased t) := by
  induction s with
  | nil => rfl
  | cons c s ih =>
    unfold startsCased at ih ⊢
    cases hc : caseIgnorable.contains c with
    | true => simpa [List.dropWhile_cons, hc] using ih
    | false => simp [hc]

theorem startsCased_of_all {s : List Char} (h : s.all caseIgnorable.contains = true) :
    startsCased s = false := by
  rw [startsCased, List.dropWhile_eq_nil_iff.mpr (List.all_eq_true.mp h)]

/-- A text that goes on has no shorter lower case, since both sigmas are one character. -/
theorem length_lowercaseFrom_append (before s t : List Char) :
    (lowercaseFrom before s).length ≤ (lowercaseFrom before (s ++ t)).length := by
  induction s generalizing before with
  | nil => exact Nat.zero_le _
  | cons c s ih =>
    have hrest := ih (c :: before)
    simp only [List.cons_append, lowercaseFrom, List.length_append]
    split
    · split <;> split <;> simpa using hrest
    · exact Nat.add_le_add_left hrest _

/-- The lower case of a text is the beginning of the lower case of a text that goes on with it,
unless it ends in a sigma that closes a word and a cased letter follows. -/
theorem lowercaseFrom_prefix_append (before s t : List Char) :
    lowercaseFrom before s <+: lowercaseFrom before (s ++ t) ↔
      ¬(endsInSigma before s = true ∧ startsCased t = true) := by
  induction s generalizing before with
  | nil => simp [lowercaseFrom, endsInSigma]
  | cons c s ih =>
    have ih := ih (c :: before)
    rw [List.cons_append, lowercaseFrom, lowercaseFrom, endsInSigma, startsCased_append]
    by_cases hc : c = 'Σ'
    · subst hc
      cases hignored : s.all caseIgnorable.contains with
      | false => simpa using ih
      | true =>
        -- The sigma is the last character that counts, so what follows the text decides about it.
        rw [startsCased_of_all hignored]
        cases hbefore : startsCased before <;> cases hafter : startsCased t <;>
          simp_all
    · simpa [hc] using ih

end Dossier.Text
