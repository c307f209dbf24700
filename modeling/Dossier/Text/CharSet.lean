/-!
# Sets of characters

A set of characters is a list of inclusive ranges of code points. Sets that are built by the
operations below keep their ranges in increasing order and apart from each other, so that a set
has one list of ranges.

* `CharSet.contains` : membership, the only view that matching uses;
* `union`, `complement`, `inter`, `diff`, `symmDiff` : the set operations;
* `CharSet.everything` : all characters (surrogates are no characters and stand in no set);
* `contains_union` : membership in a union.
-/

namespace Dossier

/-- A set of characters as inclusive ranges of code points. -/
structure CharSet where
  ranges : List (Nat × Nat)
deriving Repr, DecidableEq, Inhabited

namespace CharSet

/-- Whether a code point lies in one of the ranges. -/
def containsCode (s : CharSet) (n : Nat) : Bool :=
  s.ranges.any fun r => decide (r.1 ≤ n) && decide (n ≤ r.2)

/-- Whether a character is in the set. -/
def contains (s : CharSet) (c : Char) : Bool := s.containsCode c.toNat

def empty : CharSet := ⟨[]⟩

/-- The set of one character. -/
def single (c : Char) : CharSet := ⟨[(c.toNat, c.toNat)]⟩

/-- The characters from the first to the second code point, both included. -/
def range (first last : Nat) : CharSet := if first ≤ last then ⟨[(first, last)]⟩ else empty

/-- The code points that are characters: all but the surrogates. -/
def everything : CharSet := ⟨[(0, 0xD7FF), (0xE000, 0x10FFFF)]⟩

/-- Puts a range in front of ranges that start no earlier and lie apart, taking in those it
touches. -/
private def absorb (r : Nat × Nat) (rest : List (Nat × Nat)) : List (Nat × Nat) :=
  let touching := rest.takeWhile fun q => decide (q.1 ≤ r.2 + 1)
  (r.1, touching.foldl (fun m q => max m q.2) r.2) :: rest.drop touching.length

/-- Puts ranges in order and joins those that touch. -/
private def arrange (rs : List (Nat × Nat)) : List (Nat × Nat) :=
  (rs.mergeSort fun a b => decide (a.1 ≤ b.1)).foldr absorb []

/-- The set with the given ranges, in any order. -/
def ofRanges (rs : List (Nat × Nat)) : CharSet := ⟨arrange rs⟩

def union (s t : CharSet) : CharSet := ofRanges (s.ranges ++ t.ranges)

def unionAll (sets : List CharSet) : CharSet := ofRanges (sets.flatMap ranges)

/-- The gaps between ordered ranges, from a code point on. -/
private def gaps (start : Nat) : List (Nat × Nat) → List (Nat × Nat)
  | [] => if start ≤ 0x10FFFF then [(start, 0x10FFFF)] else []
  | (a, b) :: rest =>
    if start < a then (start, a - 1) :: gaps (b + 1) rest else gaps (b + 1) rest

/-- All characters outside the set. -/
def complement (s : CharSet) : CharSet := ⟨gaps 0 (arrange ((0xD800, 0xDFFF) :: s.ranges))⟩

def inter (s t : CharSet) : CharSet := (s.complement.union t.complement).complement

def diff (s t : CharSet) : CharSet := s.inter t.complement

def symmDiff (s t : CharSet) : CharSet := (s.diff t).union (t.diff s)

/-- Whether the set has ASCII characters only. -/
def isAscii (s : CharSet) : Bool := s.ranges.all fun r => decide (r.2 ≤ 0x7F)

def isEmpty (s : CharSet) : Bool := s.ranges.isEmpty

theorem contains_single (c d : Char) : (single c).contains d = decide (d = c) := by
  simp only [contains, containsCode, single, List.any_cons, List.any_nil, Bool.or_false]
  by_cases h : d = c
  · simp [h]
  · have : d.toNat ≠ c.toNat := fun e => h (Char.toNat_inj.1 e)
    simp only [h, decide_false, Bool.and_eq_false_iff, decide_eq_false_iff_not]
    omega

theorem contains_empty (c : Char) : empty.contains c = false := rfl

theorem contains_everything (c : Char) : everything.contains c = true := by
  have h : c.toNat.isValidChar := c.valid
  simp only [contains, containsCode, everything, List.any_cons, List.any_nil, Bool.or_false,
    Bool.or_eq_true, Bool.and_eq_true, decide_eq_true_eq]
  unfold Nat.isValidChar at h
  omega

/-! ## Membership in a union -/

/-- Whether a number lies in one of some ranges. -/
private def covers (rs : List (Nat × Nat)) (n : Nat) : Prop := ∃ r ∈ rs, r.1 ≤ n ∧ n ≤ r.2

private theorem containsCode_iff (s : CharSet) (n : Nat) :
    s.containsCode n = true ↔ covers s.ranges n := by
  simp [containsCode, covers]

@[simp] private theorem covers_cons (r : Nat × Nat) (rs : List (Nat × Nat)) (n : Nat) :
    covers (r :: rs) n ↔ (r.1 ≤ n ∧ n ≤ r.2) ∨ covers rs n := by
  simp [covers]

@[simp] private theorem covers_append (rs qs : List (Nat × Nat)) (n : Nat) :
    covers (rs ++ qs) n ↔ covers rs n ∨ covers qs n := by
  simp only [covers, List.mem_append, or_and_right, exists_or]

private theorem le_foldl_max (rs : List (Nat × Nat)) (b n : Nat) :
    n ≤ rs.foldl (fun m q => max m q.2) b ↔ n ≤ b ∨ ∃ r ∈ rs, n ≤ r.2 := by
  induction rs generalizing b with
  | nil => simp
  | cons r rs ih =>
    have hmax : n ≤ max b r.2 ↔ n ≤ b ∨ n ≤ r.2 := by omega
    simp only [List.foldl_cons, ih, hmax, List.mem_cons, exists_eq_or_imp, or_assoc]

/-- A range that starts no later than others covers the same numbers with them once it has taken in
those it touches. -/
private theorem covers_absorb {r : Nat × Nat} {rest : List (Nat × Nat)}
    (h : ∀ q ∈ rest, r.1 ≤ q.1) (n : Nat) : covers (absorb r rest) n ↔ covers (r :: rest) n := by
  unfold absorb
  have hrest : rest = rest.takeWhile (fun q => decide (q.1 ≤ r.2 + 1)) ++
      rest.dropWhile fun q => decide (q.1 ≤ r.2 + 1) := List.takeWhile_append_dropWhile.symm
  have htouch : ∀ q ∈ rest.takeWhile (fun q => decide (q.1 ≤ r.2 + 1)), q.1 ≤ r.2 + 1 := by
    intro q hq
    simpa using List.all_eq_true.mp List.all_takeWhile q hq
  generalize rest.takeWhile (fun q => decide (q.1 ≤ r.2 + 1)) = touching at hrest htouch ⊢
  generalize rest.dropWhile (fun q => decide (q.1 ≤ r.2 + 1)) = others at hrest
  subst hrest
  simp only [List.drop_left, covers_cons, covers_append, le_foldl_max, and_or_left]
  constructor
  · rintro ((h1 | ⟨h1, q, hq, h2⟩) | h3)
    · exact .inl h1
    · by_cases hn : n ≤ r.2
      · exact .inl ⟨h1, hn⟩
      · have := htouch q hq
        exact .inr (.inl ⟨q, hq, by omega, h2⟩)
    · exact .inr (.inr h3)
  · rintro (h1 | ⟨q, hq, h1, h2⟩ | h3)
    · exact .inl (.inl h1)
    · have := h q (List.mem_append_left _ hq)
      exact .inl (.inr ⟨by omega, q, hq, h2⟩)
    · exact .inr h3

private theorem foldr_absorb (rs : List (Nat × Nat)) (h : rs.Pairwise fun a b => a.1 ≤ b.1) :
    (∀ q ∈ rs.foldr absorb [], ∃ r ∈ rs, q.1 = r.1) ∧
      ∀ n, covers (rs.foldr absorb []) n ↔ covers rs n := by
  induction rs with
  | nil => simp
  | cons r rs ih =>
    obtain ⟨h1, h2⟩ := List.pairwise_cons.mp h
    obtain ⟨ih1, ih2⟩ := ih h2
    have hstart : ∀ q ∈ rs.foldr absorb [], r.1 ≤ q.1 := by
      intro q hq
      obtain ⟨p, hp, he⟩ := ih1 q hq
      rw [he]
      exact h1 p hp
    rw [List.foldr_cons]
    refine ⟨fun q hq => ?_, fun n => ?_⟩
    · rcases List.mem_cons.mp hq with rfl | hq
      · exact ⟨r, List.mem_cons_self, rfl⟩
      · obtain ⟨p, hp, he⟩ := ih1 q (List.mem_of_mem_drop hq)
        exact ⟨p, List.mem_cons_of_mem _ hp, he⟩
    · rw [covers_absorb hstart, covers_cons, covers_cons, ih2]

private theorem covers_arrange (rs : List (Nat × Nat)) (n : Nat) :
    covers (arrange rs) n ↔ covers rs n := by
  have htrans : ∀ a b c : Nat × Nat, decide (a.1 ≤ b.1) = true → decide (b.1 ≤ c.1) = true →
      decide (a.1 ≤ c.1) = true := by
    simp only [decide_eq_true_eq]
    omega
  have htotal : ∀ a b : Nat × Nat, (decide (a.1 ≤ b.1) || decide (b.1 ≤ a.1)) = true := by
    simp only [Bool.or_eq_true, decide_eq_true_eq]
    omega
  have hsorted := List.pairwise_mergeSort htrans htotal rs
  unfold arrange
  rw [(foldr_absorb _ (by simpa using hsorted)).2]
  simp [covers, List.mem_mergeSort]

/-- Uniting two sets puts their members together. -/
theorem contains_union (s t : CharSet) (c : Char) :
    (s.union t).contains c = (s.contains c || t.contains c) := by
  rw [Bool.eq_iff_iff, Bool.or_eq_true]
  simp only [contains, containsCode_iff, union, ofRanges, covers_arrange, covers_append]

/-- A union is empty if both parts are. -/
theorem isEmpty_union (s t : CharSet) : (s.union t).isEmpty = (s.isEmpty && t.isEmpty) := by
  have hfold : ∀ rs, (List.foldr absorb [] rs).isEmpty = rs.isEmpty := by
    intro rs
    cases rs <;> rfl
  unfold isEmpty union ofRanges arrange
  rw [hfold, Bool.eq_iff_iff]
  simp [← List.length_eq_zero_iff]

end CharSet

end Dossier
