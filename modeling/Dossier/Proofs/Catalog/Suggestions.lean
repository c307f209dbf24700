import Dossier.Catalog
import Dossier.Proofs.Text.LetterCase

/-!
# Suggestions while a name is typed

The names that are suggested are those whose lower case starts with the lower case of what has been
typed. Typing on only takes names away, and a name is suggested for each of its beginnings, with one
exception: a beginning that ends in a capital sigma has the final sigma in lower case, and the name
has not if its word goes on there.

* `SplitsWord` : such beginnings;
* `Catalog.mem_suggest` : what is suggested;
* `Catalog.mem_suggest_typed` : what is suggested for a beginning of what has been typed;
* `Catalog.suggest_splits_word` : a name that is not suggested for one of its beginnings.
-/

namespace Dossier

open Text

/-- Whether what has been typed ends in a capital sigma that closes a word, and what follows goes on
with that word. -/
def SplitsWord (typed rest : String) : Prop :=
  endsInSigma [] typed.toList = true ∧ startsCased rest.toList = true

instance (typed rest : String) : Decidable (SplitsWord typed rest) :=
  inferInstanceAs (Decidable (_ ∧ _))

/-- There is no exception without a capital sigma. -/
theorem not_splitsWord {typed : String} (h : 'Σ' ∉ typed.toList) (rest : String) :
    ¬SplitsWord typed rest := by
  have hends : ∀ before s, 'Σ' ∉ s → endsInSigma before s = false := by
    intro before s hs
    induction s generalizing before with
    | nil => rfl
    | cons c s ih =>
      rw [List.mem_cons, not_or] at hs
      simp [endsInSigma, Ne.symm hs.1, ih _ hs.2]
  intro hsplits
  rw [SplitsWord, hends [] _ h] at hsplits
  exact absurd hsplits.1 Bool.false_ne_true

namespace Catalog

variable {c : Catalog} {category : Category} {e : NamedElement}

/-- What is suggested are the elements whose name starts with what has been typed, in lower case. -/
theorem mem_suggest {typed : String} :
    e ∈ c.suggest category typed ↔
      e ∈ c.list category ∧ lowercase typed.toList <+: lowercase e.name.toList := by
  simp [suggest]

theorem mem_suggest_name (h : e ∈ c.list category) : e ∈ c.suggest category e.name :=
  mem_suggest.mpr ⟨h, List.prefix_rfl⟩

/-- Of what is suggested for a text, all is suggested for its beginning, unless the text goes on
inside a word whose beginning ends in a sigma. -/
theorem mem_suggest_of_append {typed rest : String} (h : e ∈ c.suggest category (typed ++ rest)) :
    e ∈ c.suggest category typed ↔ ¬SplitsWord typed rest := by
  obtain ⟨hlist, hname⟩ := mem_suggest.mp h
  rw [String.toList_append] at hname
  have hlength : (lowercase typed.toList).length ≤
      (lowercase (typed.toList ++ rest.toList)).length := length_lowercaseFrom_append [] _ _
  rw [mem_suggest, SplitsWord, ← lowercaseFrom_prefix_append]
  constructor
  · rintro ⟨-, htyped⟩
    exact List.prefix_of_prefix_length_le htyped hname hlength
  · exact fun hprefix => ⟨hlist, hprefix.trans hname⟩

/-- An element is suggested for a beginning of its name, and what is suggested for a text is
suggested for a beginning of the text, just if the rest does not go on inside a word whose beginning
ends in a sigma. Without capital sigmas this is always so. -/
theorem mem_suggest_typed (c : Catalog) (category : Category) (typed rest : String) :
    (∀ e ∈ c.list category, e.name = typed ++ rest →
      (e ∈ c.suggest category typed ↔ ¬SplitsWord typed rest)) ∧
    (∀ e ∈ c.suggest category (typed ++ rest),
      (e ∈ c.suggest category typed ↔ ¬SplitsWord typed rest)) ∧
    ('Σ' ∉ typed.toList → ¬SplitsWord typed rest) := by
  refine ⟨fun e he hname => ?_, fun e he => mem_suggest_of_append he, fun h => ?_⟩
  · exact mem_suggest_of_append (hname ▸ mem_suggest_name he)
  · exact not_splitsWord h rest

/-- A name in capitals, whose first sigma is inside its word and whose second one is not. -/
theorem mem_suggest_typed_kostas :
    let e : NamedElement := { id := 1, name := "ΚΩΣΤΑΣ" }
    let c : Catalog := { correspondents := [e] }
    e ∈ c.list .correspondents ∧ e.name = "ΚΩΣΤ" ++ "ΑΣ" ∧ ¬SplitsWord "ΚΩΣΤ" "ΑΣ" ∧
      e ∈ c.suggest .correspondents "ΚΩΣΤ" := by
  intro e c
  have hlist : e ∈ c.list .correspondents := List.mem_singleton.mpr rfl
  have hname : e.name = "ΚΩΣΤ" ++ "ΑΣ" := by decide +kernel
  have hsplits : ¬SplitsWord "ΚΩΣΤ" "ΑΣ" := by decide +kernel
  have htyped := mem_suggest_typed c .correspondents "ΚΩΣΤ" "ΑΣ"
  exact ⟨hlist, hname, hsplits, (htyped.1 e hlist hname).mpr hsplits⟩

/-- The name is not suggested for its beginning up to the first sigma, and it is suggested before
and after this. -/
theorem suggest_splits_word :
    let e : NamedElement := { id := 1, name := "ΚΩΣΤΑΣ" }
    let c : Catalog := { correspondents := [e] }
    c.suggest .correspondents "ΚΩ" = [e] ∧ c.suggest .correspondents "ΚΩΣ" = [] ∧
      c.suggest .correspondents "ΚΩΣΤ" = [e] := by
  decide +kernel

end Catalog

end Dossier
