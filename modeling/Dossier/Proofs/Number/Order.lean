import Dossier.Number.FloatOrder
import Mathlib.Data.Prod.Lex
import Mathlib.Order.Compare

/-!
# The order of floating-point numbers

Comparing two numbers compares their ranks: first the sign, then the exponent, then the significand.
The zeros have one rank, and what is not a number has none.

* `rank?` : the rank of a number;
* `lt_iff_rank`, `le_iff_rank`, `beq_iff_rank` : comparisons in terms of ranks;
* `isFinite_of_between` : what lies between finite numbers is finite;
* `lesser_lesser_greater`, `greater_lesser_greater` : numbers in order stay as they are;
* `totalKey_inj` : the key in the order of all numbers tells them apart.
-/

namespace Dossier

open Float.Model

/-! ## Ranks -/

/-- A sign and what decides between numbers of that sign, in lexicographic order. -/
abbrev Rank := Int ×ₗ Int ×ₗ Int

/-- The rank with the given parts. -/
def Rank.of (sign exponent significand : Int) : Rank := toLex (sign, toLex (exponent, significand))

/-- The rank of the value of a bit pattern. -/
def rankOf? : UnpackedFloat → Option Rank
  | .notANumber => none
  | .infinity .negative => some (.of (-2) 0 0)
  | .finite .negative m e _ => some (.of (-1) (-e) (-m))
  | .zero _ => some (.of 0 0 0)
  | .finite .positive m e _ => some (.of 1 e m)
  | .infinity .positive => some (.of 2 0 0)

/-- The rank of a number. -/
def rank? (x : Float) : Option Rank := rankOf? x.toModel.unpack

theorem Rank.compare_of (a b c a' b' c' : Int) :
    compare (Rank.of a b c) (Rank.of a' b' c') =
      (compare a a').then ((compare b b').then (compare c c')) := by
  unfold Rank.of
  rw [Prod.Lex.compare_def, compareLex, compareOn, compareOn, Prod.Lex.compare_def]
  rfl

theorem compare_neg (a b : Int) : compare (-a) (-b) = (compare a b).swap := by
  rw [Int.compare_swap]
  simp only [compare, compareOfLessAndEq]
  grind

theorem compare_natCast (m n : Nat) : compare (m : Int) (n : Int) = compare m n := by
  simp only [compare, compareOfLessAndEq]
  grind

/-- Values are compared by their ranks. -/
theorem compare_eq_rankOf? (a b : UnpackedFloat) :
    a.compare b = (rankOf? a).bind fun x => (rankOf? b).map fun y => compare x y := by
  rcases a with s | _ | s | ⟨s, m, e, _⟩ <;> rcases b with t | _ | t | ⟨t, n, f, _⟩ <;>
    (try cases s) <;> (try cases t) <;> try rfl
  -- What is left are two finite numbers of one sign.
  · show some ((compare e f).then (compare m n)).swap =
      some (compare (Rank.of (-1) (-e) (-m)) (Rank.of (-1) (-f) (-n)))
    rw [Rank.compare_of, compare_neg e f, compare_neg (m : Int), compare_natCast,
      Ordering.swap_then]
    rfl
  · show some ((compare e f).then (compare m n)) = some (compare (Rank.of 1 e m) (Rank.of 1 f n))
    rw [Rank.compare_of, compare_natCast]
    rfl

theorem compare_eq_some {a b : UnpackedFloat} {o : Ordering} :
    a.compare b = some o ↔ ∃ x y, rankOf? a = some x ∧ rankOf? b = some y ∧ compare x y = o := by
  rw [compare_eq_rankOf?]
  simp [Option.bind_eq_some_iff]

/-! ## Comparisons -/

variable {a a' b b' : Float}

theorem lt_iff_rank : a < b ↔ ∃ x y, rank? a = some x ∧ rank? b = some y ∧ x < y := by
  show a.lt b = true ↔ _
  unfold Float.lt
  rw [decide_eq_true_iff]
  show (a.toModel.unpack.compare b.toModel.unpack == some .lt) = true ↔ _
  rw [beq_iff_eq, compare_eq_some]
  simp only [compare_lt_iff_lt]
  rfl

theorem le_iff_rank : a ≤ b ↔ ∃ x y, rank? a = some x ∧ rank? b = some y ∧ x ≤ y := by
  show a.le b = true ↔ _
  unfold Float.le
  rw [decide_eq_true_iff]
  show (a.toModel.unpack.compare b.toModel.unpack).any (·.isLE) = true ↔ _
  simp only [Option.any_eq_true, compare_eq_some]
  constructor
  · rintro ⟨o, ⟨x, y, hx, hy, rfl⟩, hle⟩
    exact ⟨x, y, hx, hy, compare_le_iff_le.mp (Ordering.isLE_iff_ne_gt.mp hle)⟩
  · rintro ⟨x, y, hx, hy, hle⟩
    exact ⟨_, ⟨x, y, hx, hy, rfl⟩, Ordering.isLE_iff_ne_gt.mpr (compare_le_iff_le.mpr hle)⟩

theorem beq_iff_rank : (a == b) = true ↔ ∃ x, rank? a = some x ∧ rank? b = some x := by
  show (a.toModel.unpack.compare b.toModel.unpack == some .eq) = true ↔ _
  rw [beq_iff_eq, compare_eq_some]
  simp only [compare_eq_iff_eq]
  constructor
  · rintro ⟨x, y, hx, hy, rfl⟩
    exact ⟨x, hx, hy⟩
  · rintro ⟨x, hx, hy⟩
    exact ⟨x, x, hx, hy, rfl⟩

/-- Numbers that are equal have one rank. -/
theorem rank?_eq_of_beq (h : (a == b) = true) : rank? a = rank? b := by
  obtain ⟨x, hx, hy⟩ := beq_iff_rank.mp h
  rw [hx, hy]

theorem lt_congr_rank (ha : rank? a = rank? a') (hb : rank? b = rank? b') : a < b ↔ a' < b' := by
  rw [lt_iff_rank, lt_iff_rank, ha, hb]

theorem le_congr_rank (ha : rank? a = rank? a') (hb : rank? b = rank? b') : a ≤ b ↔ a' ≤ b' := by
  rw [le_iff_rank, le_iff_rank, ha, hb]

theorem lt_asymm_rank (h : a < b) : ¬ b < a := by
  obtain ⟨x, y, hx, hy, hxy⟩ := lt_iff_rank.mp h
  intro h'
  obtain ⟨y', x', hy', hx', hyx⟩ := lt_iff_rank.mp h'
  obtain rfl := Option.some.inj (hx.symm.trans hx')
  obtain rfl := Option.some.inj (hy.symm.trans hy')
  exact lt_asymm hxy hyx

/-- The sign in the rank of a number tells whether it is finite. -/
theorem isFinite_iff_rank {x : Float} :
    x.isFinite = true ↔ ∃ r, rank? x = some r ∧ -1 ≤ (ofLex r).1 ∧ (ofLex r).1 ≤ 1 := by
  show x.toModel.unpack.isFinite = true ↔ _
  unfold rank?
  have hsigns : (-1 : Int) ≤ 1 := by decide
  cases x.toModel.unpack with
  | notANumber => exact iff_of_false Bool.false_ne_true (by rintro ⟨_, ⟨⟩, -⟩)
  | infinity s =>
    refine iff_of_false Bool.false_ne_true ?_
    rintro ⟨r, hr, hlow, hhigh⟩
    cases s with
    | negative =>
      cases hr
      exact absurd hlow (by decide)
    | positive =>
      cases hr
      exact absurd hhigh (by decide)
  | zero s => exact iff_of_true rfl ⟨_, rfl, by decide, by decide⟩
  | finite s m e hm =>
    cases s with
    | negative => exact iff_of_true rfl ⟨_, rfl, Int.le_refl (-1), hsigns⟩
    | positive => exact iff_of_true rfl ⟨_, rfl, hsigns, Int.le_refl 1⟩

/-- What lies between two finite numbers is finite. -/
theorem isFinite_of_between {a b x : Float} (ha : a.isFinite = true) (hb : b.isFinite = true)
    (hlow : a ≤ x) (hhigh : x < b) : x.isFinite = true := by
  obtain ⟨r, s, hr, hs, hrs⟩ := le_iff_rank.mp hlow
  obtain ⟨s', t, hs', ht, hst⟩ := lt_iff_rank.mp hhigh
  obtain rfl := Option.some.inj (hs.symm.trans hs')
  obtain ⟨r', hr', hlow, -⟩ := isFinite_iff_rank.mp ha
  obtain ⟨t', ht', -, hhigh⟩ := isFinite_iff_rank.mp hb
  obtain rfl := Option.some.inj (hr.symm.trans hr')
  obtain rfl := Option.some.inj (ht.symm.trans ht')
  exact isFinite_iff_rank.mpr ⟨s, hs, hlow.trans (Prod.Lex.monotone_fst r s hrs),
    (Prod.Lex.monotone_fst s t hst.le).trans hhigh⟩
/-! ## The lesser and the greater of two numbers -/

theorem rank?_lesser (ha : rank? a = rank? a') (hb : rank? b = rank? b') :
    rank? (lesser a b) = rank? (lesser a' b') := by
  unfold lesser
  simp only [lt_congr_rank hb ha]
  split
  · exact hb
  · exact ha

theorem rank?_greater (ha : rank? a = rank? a') (hb : rank? b = rank? b') :
    rank? (greater a b) = rank? (greater a' b') := by
  unfold greater
  simp only [lt_congr_rank ha hb]
  split
  · exact hb
  · exact ha

theorem lesser_of_not_lt (h : ¬ b < a) : lesser a b = a := if_neg h

/-- Two numbers are put in order, or they are equal and the first one stands for both. -/
theorem lesser_greater_cases (a b : Float) :
    (¬ b < a ∧ lesser a b = a ∧ greater a b = b) ∨
    (b < a ∧ lesser a b = b ∧ greater a b = a) ∨
    (¬ a < a ∧ lesser a b = a ∧ greater a b = a) := by
  have hself : ¬ a < a := fun h => lt_asymm_rank h h
  unfold lesser greater
  by_cases hab : a < b
  · exact .inl ⟨lt_asymm_rank hab, if_neg (lt_asymm_rank hab), if_pos hab⟩
  · by_cases hba : b < a
    · exact .inr (.inl ⟨hba, if_pos hba, if_neg hab⟩)
    · exact .inr (.inr ⟨hself, if_neg hba, if_neg hab⟩)

/-- What lies below the lesser of two numbers is less than what the greater one does not exceed. -/
theorem lt_of_lt_lesser {x y : Float} (hlow : x < lesser a b) (hhigh : greater a b ≤ y) : x < y := by
  obtain ⟨r, s, hr, hs, hrs⟩ := lt_iff_rank.mp hlow
  obtain ⟨t, u, ht, hu, htu⟩ := le_iff_rank.mp hhigh
  refine lt_iff_rank.mpr ⟨r, u, hr, hu, lt_of_lt_of_le hrs (le_trans ?_ htu)⟩
  rcases lesser_greater_cases a b with ⟨h, h1, h2⟩ | ⟨h, h1, h2⟩ | ⟨-, h1, h2⟩ <;> rw [h1] at hs <;>
    rw [h2] at ht
  · exact not_lt.mp fun hlt => h (lt_iff_rank.mpr ⟨t, s, ht, hs, hlt⟩)
  · obtain ⟨s', t', hs', ht', hlt⟩ := lt_iff_rank.mp h
    obtain rfl := Option.some.inj (hs.symm.trans hs')
    obtain rfl := Option.some.inj (ht.symm.trans ht')
    exact le_of_lt hlt
  · exact le_of_eq (Option.some.inj (hs.symm.trans ht))

theorem lesser_lesser_greater (a b : Float) : lesser (lesser a b) (greater a b) = lesser a b := by
  rcases lesser_greater_cases a b with ⟨h, h1, h2⟩ | ⟨h, h1, h2⟩ | ⟨h, h1, h2⟩ <;> rw [h1, h2]
  · exact lesser_of_not_lt h
  · exact lesser_of_not_lt (lt_asymm_rank h)
  · exact lesser_of_not_lt h

theorem greater_lesser_greater (a b : Float) :
    greater (lesser a b) (greater a b) = greater a b := by
  rcases lesser_greater_cases a b with ⟨-, h1, h2⟩ | ⟨h, h1, h2⟩ | ⟨-, h1, h2⟩ <;> rw [h1, h2]
  · exact h2
  · exact if_pos h
  · exact ite_self a

/-! ## The order of all numbers -/

/-- The key in the order of all numbers tells them apart. -/
theorem totalKey_inj : totalKey a = totalKey b ↔ a = b := by
  refine ⟨fun h => ?_, congrArg totalKey⟩
  have hbits : a.toBits.toNat = b.toBits.toNat := by
    unfold totalKey at h
    simp only at h
    split at h <;> split at h <;> omega
  obtain ⟨⟨bits, _⟩⟩ := a
  obtain ⟨⟨bits', _⟩⟩ := b
  obtain rfl : bits = bits' := UInt64.toNat_inj.mp hbits
  rfl

end Dossier
