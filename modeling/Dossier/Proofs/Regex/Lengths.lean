import Dossier.Proofs.Regex.Matches

/-!
# Matches by their lengths

A match of a node without groups is known by the number of characters that it takes, and which
numbers these are depends on the text after the place alone.

* `longestFirst`, `shortestFirst` : the lengths of the runs of characters with a property;
* `Node.Takes` : a node whose matches have given lengths; one lemma for each kind of node;
* `finds_seqAll_cons` : the matches of trees in a row.
-/

namespace Dossier.Regex

/-! ## Runs of characters -/

/-- The number of characters with a property at the start of a text. -/
def runLength (p : Char → Bool) (rest : List Char) : Nat := (rest.takeWhile p).length

/-- The numbers of characters with a property that can be taken from the start of a text, from the
most down to the least number allowed. -/
def longestFirst (least : Nat) (p : Char → Bool) (rest : List Char) : List Nat :=
  (List.range' least (runLength p rest + 1 - least)).reverse

/-- The numbers of characters with a property that can be taken from the start of a text, from none
up to all of them. -/
def shortestFirst (p : Char → Bool) (rest : List Char) : List Nat :=
  List.range (runLength p rest + 1)

section Runs

variable {p : Char → Bool} {c : Char} {rest : List Char}

theorem runLength_cons_pos (h : p c = true) : runLength p (c :: rest) = 1 + runLength p rest := by
  simp [runLength, h, Nat.add_comm]

theorem runLength_cons_neg (h : p c = false) : runLength p (c :: rest) = 0 := by
  simp [runLength, h]

/-- All characters of a text stand in a row. -/
theorem runLength_true (rest : List Char) : runLength (fun _ => true) rest = rest.length := by
  induction rest with
  | nil => rfl
  | cons c rest ih => rw [runLength_cons_pos rfl, ih, List.length_cons, Nat.add_comm]

theorem longestFirst_zero (p : Char → Bool) (rest : List Char) :
    longestFirst 0 p rest = longestFirst 1 p rest ++ [0] := by
  simp [longestFirst, List.range'_succ]

theorem longestFirst_one_pos (h : p c = true) :
    longestFirst 1 p (c :: rest) = (longestFirst 0 p rest).map (1 + ·) := by
  have hcount : 1 + runLength p rest + 1 - 1 = runLength p rest + 1 - 0 := by omega
  unfold longestFirst
  rw [runLength_cons_pos h, List.map_reverse, List.map_add_range', hcount]

theorem longestFirst_one_neg (h : p c = false) : longestFirst 1 p (c :: rest) = [] := by
  simp [longestFirst, runLength_cons_neg h]

theorem shortestFirst_pos (h : p c = true) :
    shortestFirst p (c :: rest) = 0 :: (shortestFirst p rest).map (1 + ·) := by
  unfold shortestFirst
  rw [runLength_cons_pos h, Nat.add_comm 1, List.range_succ_eq_map]
  simp [Nat.add_comm]

theorem shortestFirst_neg (h : p c = false) : shortestFirst p (c :: rest) = [0] := by
  simp [shortestFirst, runLength_cons_neg h]

end Runs

/-! ## Places further on -/

/-- The place so many characters further on. -/
def Cursor.advance (place : Cursor) (n : Nat) : Cursor where
  before := (place.rest.take n).getLast?.or place.before
  offset := place.offset + n
  rest := place.rest.drop n

namespace Cursor

variable (place : Cursor)

@[simp] theorem advance_offset (n : Nat) : (place.advance n).offset = place.offset + n := rfl

@[simp] theorem advance_rest (n : Nat) : (place.advance n).rest = place.rest.drop n := rfl

@[simp] theorem advance_zero : place.advance 0 = place := by
  simp [advance]

theorem advance_advance (m n : Nat) : (place.advance m).advance n = place.advance (m + n) := by
  simp only [advance, List.drop_drop, Nat.add_assoc, List.take_add, List.getLast?_append,
    Option.or_assoc]

theorem advance_one (before : Option Char) (offset : Nat) (c : Char) (rest : List Char) :
    (⟨before, offset, c :: rest⟩ : Cursor).advance 1 = ⟨some c, offset + 1, rest⟩ := rfl

end Cursor

/-- Matches of given lengths from a place that capture nothing. -/
def taking (place : Cursor) (lengths : List Nat) : List Found :=
  lengths.map fun n => (place.advance n, [])

theorem taking_append (place : Cursor) (lengths lengths' : List Nat) :
    taking place (lengths ++ lengths') = taking place lengths ++ taking place lengths' :=
  List.map_append

theorem taking_advance (place : Cursor) (m : Nat) (lengths : List Nat) :
    taking (place.advance m) lengths = taking place (lengths.map (m + ·)) := by
  simp [taking, Function.comp_def, Cursor.advance_advance]

theorem followedBy_taking (place : Cursor) (lengths : List Nat) (next : Cursor → List Found) :
    followedBy (taking place lengths) next = lengths.flatMap fun n => next (place.advance n) := by
  simp [followedBy, taking, List.flatMap_map]

/-! ## Nodes without groups -/

/-- The matches of a node have lengths that depend on the text after the place alone. -/
def Node.Takes (node : Node) (lengths : List Char → List Nat) : Prop :=
  ∀ place, node.finds place = taking place (lengths place.rest)

/-- The length of one character with a property, if the text starts with one. -/
def oneChar (p : Char → Bool) (rest : List Char) : List Nat := if rest.head?.any p then [1] else []

namespace Node.Takes

variable {a b : Node} {lengths lengths' : List Char → List Nat}

theorem congr (h : a.Takes lengths) (he : ∀ rest, lengths rest = lengths' rest) :
    a.Takes lengths' := by
  intro place
  rw [h, he]

theorem empty : Takes .empty fun _ => [0] := by
  intro place
  simp [finds, taking]

theorem set (s : CharSet) : Takes (.set s) (oneChar s.contains) := by
  rintro ⟨before, offset, rest⟩
  cases rest with
  | nil => rfl
  | cons c rest =>
    by_cases h : s.contains c = true
    · simp [finds, oneChar, taking, h, Cursor.advance_one]
    · simp [finds, oneChar, taking, h]

theorem seq (ha : a.Takes lengths) (hb : b.Takes lengths') :
    Takes (.seq a b) fun rest =>
      (lengths rest).flatMap fun n => (lengths' (rest.drop n)).map (n + ·) := by
  intro place
  rw [finds, ha, followedBy_taking]
  simp only [hb (place.advance _), taking_advance]
  simp [taking, List.map_flatMap]

theorem opt (choice : Nat) (ha : a.Takes lengths) :
    Takes (.opt choice true a) fun rest => lengths rest ++ [0] := by
  intro place
  rw [finds, taking_append, ha]
  simp [taking]

end Node.Takes

/-! ## Repetitions of a set -/

section Repetitions

variable (s : CharSet)

theorem followedBy_set (before : Option Char) (offset : Nat) (c : Char) (rest : List Char)
    (next : Cursor → List Found) :
    followedBy (Node.finds (.set s) ⟨before, offset, c :: rest⟩) next =
      if s.contains c then next ⟨some c, offset + 1, rest⟩ else [] := by
  simp only [Node.finds]
  split <;> simp [followedBy]

/-- Copies of a set, as many as there are, after one copy. -/
theorem followedBy_repeats_set {bound : Nat}
    (h : ∀ place : Cursor, place.rest.length < bound →
      repeats (Node.finds (.set s)) true bound place =
        taking place (longestFirst 0 s.contains place.rest))
    (place : Cursor) (hbound : place.rest.length ≤ bound) :
    followedBy (Node.finds (.set s) place) (repeats (Node.finds (.set s)) true bound) =
      taking place (longestFirst 1 s.contains place.rest) := by
  obtain ⟨before, offset, rest⟩ := place
  cases rest with
  | nil => rfl
  | cons c rest =>
    rw [followedBy_set]
    cases hc : s.contains c with
    | true =>
      rw [if_pos rfl, h ⟨some c, offset + 1, rest⟩ hbound, longestFirst_one_pos hc,
        ← Cursor.advance_one before, taking_advance]
      rfl
    | false => rw [if_neg (by simp), longestFirst_one_neg hc]; rfl

theorem repeats_set_greedy (bound : Nat) (place : Cursor) (h : place.rest.length < bound) :
    repeats (Node.finds (.set s)) true bound place =
      taking place (longestFirst 0 s.contains place.rest) := by
  induction bound generalizing place with
  | zero => omega
  | succ bound ih =>
    have hmore := followedBy_repeats_set s ih place (by omega)
    simp only [repeats, if_true, hmore, longestFirst_zero, taking_append]
    simp [taking]

theorem repeats_set_lazy (bound : Nat) (place : Cursor) (h : place.rest.length < bound) :
    repeats (Node.finds (.set s)) false bound place =
      taking place (shortestFirst s.contains place.rest) := by
  induction bound generalizing place with
  | zero => omega
  | succ bound ih =>
    obtain ⟨before, offset, rest⟩ := place
    have hplace : taking ⟨before, offset, rest⟩ [0] = [(⟨before, offset, rest⟩, [])] := by
      simp [taking]
    simp only [repeats, Bool.false_eq_true, if_false]
    cases rest with
    | nil => exact hplace.symm
    | cons c rest =>
      rw [followedBy_set]
      cases hc : s.contains c with
      | true =>
        rw [if_pos rfl, ih _ (by simpa using h), shortestFirst_pos hc,
          ← Cursor.advance_one before, taking_advance]
        simp [taking]
      | false => rw [if_neg (by simp), shortestFirst_neg hc, hplace]

namespace Node.Takes

theorem star (choice : Nat) : Takes (.star choice true (.set s)) (longestFirst 0 s.contains) :=
  fun place => repeats_set_greedy s _ place (Nat.lt_succ_self _)

theorem lazyStar (choice : Nat) : Takes (.star choice false (.set s)) (shortestFirst s.contains) :=
  fun place => repeats_set_lazy s _ place (Nat.lt_succ_self _)

theorem plus (choice : Nat) : Takes (.plus choice true (.set s)) (longestFirst 1 s.contains) :=
  fun place => followedBy_repeats_set s (repeats_set_greedy s _) place (Nat.le_succ _)

end Node.Takes

/-- A loop over a set takes a character with each copy. -/
theorem Node.flat_loop_set : (Node.set s).choices = [] ∧ (Node.set s).Flat ∧
    ∀ place, ∀ m ∈ (Node.set s).finds place, m.1.rest.length < place.rest.length := by
  refine ⟨rfl, trivial, fun place m hm => ?_⟩
  obtain ⟨before, offset, rest⟩ := place
  cases rest with
  | nil => simp [finds] at hm
  | cons c rest =>
    simp only [finds, List.mem_ite_nil_right, List.mem_singleton] at hm
    obtain ⟨-, rfl⟩ := hm
    exact Nat.lt_succ_self _

end Repetitions

/-! ## Trees in a row -/

theorem finds_seqAll_cons (t : Tree) (trees : List Tree) (n : Nat) (place : Cursor) :
    (Node.ofTree (.seqAll (t :: trees)) n).1.finds place =
      followedBy ((Node.ofTree t n).1.finds place)
        (Node.ofTree (.seqAll trees) (Node.ofTree t n).2).1.finds := by
  cases trees with
  | nil => exact (followedBy_stop _).symm
  | cons u trees => rfl

theorem flat_seqAll {trees : List Tree} (h : ∀ t ∈ trees, ∀ n, (Node.ofTree t n).1.Flat) (n : Nat) :
    (Node.ofTree (.seqAll trees) n).1.Flat := by
  induction trees generalizing n with
  | nil => trivial
  | cons t trees ih =>
    have ht := h t List.mem_cons_self
    have hts := fun n => ih (fun t ht => h t (List.mem_cons_of_mem _ ht)) n
    cases trees with
    | nil => exact ht n
    | cons u trees => exact ⟨ht n, hts _⟩

theorem groups_seqAll (trees : List Tree) :
    (Tree.seqAll trees).groups = trees.flatMap Tree.groups := by
  induction trees with
  | nil => rfl
  | cons t trees ih =>
    cases trees with
    | nil => simp [Tree.seqAll]
    | cons u trees => rw [List.flatMap_cons, ← ih]; rfl

end Dossier.Regex
