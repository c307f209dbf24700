import Dossier.Number.Digits
import Dossier.Text.Blank
import Mathlib.Algebra.Group.Nat.Defs
import Mathlib.Data.List.Basic

/-!
# Digits and their values

* `valueOf_digitsOf`, `valueOf_paddedDigits` : digits stand for the number that they were written
  for;
* `length_paddedDigits` : their number, for numbers that fit;
* `head_digitsOf` : they start with a zero only for zero itself;
* `eq_of_valueOf_eq` : as many digits with the same value are the same digits;
* `eq_paddedDigits_iff` : the digits that are filled up with just the zeros that are needed.
-/

namespace Dossier

theorem digitValue_digitChar {d : Nat} (h : d < 10) : digitValue (digitChar d) = d := by
  have hall : ∀ d < 10, digitValue (digitChar d) = d := by decide
  exact hall d h

theorem isDigit_digitChar {d : Nat} (h : d < 10) : (digitChar d).isDigit = true := by
  have hall : ∀ d < 10, (digitChar d).isDigit = true := by decide
  exact hall d h

theorem digitValue_lt {c : Char} (h : c.isDigit = true) : digitValue c < 10 := by
  simp only [Char.isDigit, Bool.and_eq_true, decide_eq_true_eq, UInt32.le_iff_toNat_le] at h
  exact Nat.sub_lt_left_of_lt_add h.1 (Nat.lt_succ_of_le h.2)

theorem isBlank_of_isDigit {c : Char} (h : c.isDigit = true) : Text.isBlank c = false := by
  simp only [Char.isDigit, Bool.and_eq_true, decide_eq_true_eq, UInt32.le_iff_toNat_le] at h
  have hcode : 48 ≤ c.toNat ∧ c.toNat ≤ 57 := h
  simp only [Text.isBlank, CharSet.contains, CharSet.containsCode, CharSet.blank, List.any_cons,
    List.any_nil, Bool.or_eq_false_iff, Bool.and_eq_false_iff, decide_eq_false_iff_not, and_true]
  omega

/-- A text that starts with another character starts with no digit. -/
theorem not_isDigit_head {c : Char} (h : c.isDigit = false) (s : List Char) :
    ∀ d ∈ (c :: s).head?, d.isDigit = false := by
  intro d hd
  rwa [← Option.some.inj hd]

/-! ## Values -/

theorem valueFrom_append (n : Nat) (s t : List Char) :
    valueFrom n (s ++ t) = valueFrom (valueFrom n s) t := List.foldl_append

theorem le_valueFrom (n : Nat) (s : List Char) : n ≤ valueFrom n s := by
  induction s generalizing n with
  | nil => exact Nat.le_refl n
  | cons c s ih => exact Nat.le_trans (by omega) (ih (10 * n + digitValue c))

theorem valueOf_digitsOf (n : Nat) : valueOf (digitsOf n) = n := by
  induction n using digitsOf.induct with
  | case1 n h =>
    rw [digitsOf, if_pos h]
    simp [valueOf, valueFrom, digitValue_digitChar h]
  | case2 n h ih =>
    rw [digitsOf, if_neg h, valueOf, valueFrom_append, ← valueOf, ih]
    simp only [valueFrom, List.foldl_cons, List.foldl_nil,
      digitValue_digitChar (Nat.mod_lt n (by decide : 0 < 10))]
    omega

theorem isDigit_of_mem_digitsOf {n : Nat} {c : Char} (h : c ∈ digitsOf n) : c.isDigit = true := by
  induction n using digitsOf.induct with
  | case1 n hn =>
    rw [digitsOf, if_pos hn, List.mem_singleton] at h
    exact h ▸ isDigit_digitChar hn
  | case2 n hn ih =>
    rw [digitsOf, if_neg hn, List.mem_append, List.mem_singleton] at h
    rcases h with h | rfl
    · exact ih h
    · exact isDigit_digitChar (Nat.mod_lt n (by decide))

theorem digitsOf_ne_nil (n : Nat) : digitsOf n ≠ [] := by
  rw [digitsOf]
  split <;> simp

/-- Only zero starts with a zero. -/
theorem head_digitsOf {n : Nat} (h : (digitsOf n).head? = some '0') : n = 0 := by
  induction n using digitsOf.induct with
  | case1 n hn =>
    have hall : ∀ n < 10, digitChar n = '0' → n = 0 := by decide
    rw [digitsOf, if_pos hn] at h
    exact hall n hn (Option.some.inj h)
  | case2 n hn ih =>
    rw [digitsOf, if_neg hn, List.head?_append_of_ne_nil _ (digitsOf_ne_nil _)] at h
    have := ih h
    omega

theorem length_digitsOf_le {n width : Nat} (hwidth : 0 < width) (h : n < 10 ^ width) :
    (digitsOf n).length ≤ width := by
  induction n using digitsOf.induct generalizing width with
  | case1 n hn =>
    rw [digitsOf, if_pos hn]
    exact hwidth
  | case2 n hn ih =>
    obtain ⟨width, rfl⟩ : ∃ w, width = w + 1 := ⟨width - 1, by omega⟩
    have hwidth : 0 < width := by
      by_contra hzero
      obtain rfl : width = 0 := by omega
      exact hn (by simpa using h)
    have hlength := ih hwidth (by rw [Nat.pow_succ] at h; omega)
    rw [digitsOf, if_neg hn, List.length_append, List.length_singleton]
    omega

/-! ## Leading zeros -/

theorem valueOf_replicate_zero (k : Nat) : valueOf (List.replicate k '0') = 0 := by
  induction k with
  | zero => rfl
  | succ k ih => exact ih

theorem valueOf_paddedDigits (width n : Nat) : valueOf (paddedDigits width n) = n := by
  rw [paddedDigits, valueOf, valueFrom_append, ← valueOf, valueOf_replicate_zero, ← valueOf,
    valueOf_digitsOf]

theorem isDigit_of_mem_paddedDigits {width n : Nat} {c : Char} (h : c ∈ paddedDigits width n) :
    c.isDigit = true := by
  rcases List.mem_append.mp h with h | h
  · rw [List.eq_of_mem_replicate h]
    rfl
  · exact isDigit_of_mem_digitsOf h

theorem paddedDigits_ne_nil (width n : Nat) : paddedDigits width n ≠ [] :=
  List.append_ne_nil_of_right_ne_nil _ (digitsOf_ne_nil n)

theorem length_paddedDigits {width n : Nat} (hwidth : 0 < width) (h : n < 10 ^ width) :
    (paddedDigits width n).length = width := by
  have := length_digitsOf_le hwidth h
  rw [paddedDigits, List.length_append, List.length_replicate]
  omega

theorem paddedDigits_of_le {width n : Nat} (h : width ≤ (digitsOf n).length) :
    paddedDigits width n = digitsOf n := by
  rw [paddedDigits, Nat.sub_eq_zero_of_le h]
  rfl

/-! ## Digits that are given -/

theorem valueFrom_lt {s : List Char} (hs : ∀ c ∈ s, c.isDigit = true) (n : Nat) :
    valueFrom n s < (n + 1) * 10 ^ s.length := by
  induction s generalizing n with
  | nil => simp [valueFrom]
  | cons c s ih =>
    have hc := digitValue_lt (hs c List.mem_cons_self)
    calc valueFrom (10 * n + digitValue c) s
        < (10 * n + digitValue c + 1) * 10 ^ s.length := ih (fun c h => hs c (.tail _ h)) _
      _ ≤ (n + 1) * 10 * 10 ^ s.length := Nat.mul_le_mul_right _ (by omega)
      _ = (n + 1) * 10 ^ (c :: s).length := by
        rw [List.length_cons, Nat.pow_succ, Nat.mul_assoc, Nat.mul_comm 10]

theorem valueOf_lt {s : List Char} (hs : ∀ c ∈ s, c.isDigit = true) :
    valueOf s < 10 ^ s.length := by
  have := valueFrom_lt hs 0
  rwa [Nat.zero_add, Nat.one_mul] at this

theorem eq_of_digitValue_eq {c d : Char} (hc : c.isDigit = true) (hd : d.isDigit = true)
    (h : digitValue c = digitValue d) : c = d := by
  simp only [Char.isDigit, Bool.and_eq_true, decide_eq_true_eq, UInt32.le_iff_toNat_le] at hc hd
  have hcode : c.toNat - 48 = d.toNat - 48 := h
  have hlow : 48 ≤ c.toNat ∧ 48 ≤ d.toNat := ⟨hc.1, hd.1⟩
  exact Char.toNat_inj.mp (by omega)

/-- As many digits with the same value, after digits of any values, are the same digits. -/
theorem valueFrom_inj {s t : List Char} (hs : ∀ c ∈ s, c.isDigit = true)
    (ht : ∀ c ∈ t, c.isDigit = true) (hlength : s.length = t.length) {m n : Nat}
    (h : valueFrom m s = valueFrom n t) : m = n ∧ s = t := by
  induction s generalizing t m n with
  | nil =>
    obtain rfl := List.eq_nil_of_length_eq_zero hlength.symm
    exact ⟨h, rfl⟩
  | cons c s ih =>
    cases t with
    | nil => cases hlength
    | cons d t =>
      obtain ⟨hvalue, rfl⟩ : 10 * m + digitValue c = 10 * n + digitValue d ∧ s = t :=
        ih (fun c h => hs c (.tail _ h)) (fun c h => ht c (.tail _ h)) (Nat.succ.inj hlength) h
      have hc := digitValue_lt (hs c List.mem_cons_self)
      have hd := digitValue_lt (ht d List.mem_cons_self)
      obtain rfl := eq_of_digitValue_eq (hs c List.mem_cons_self) (ht d List.mem_cons_self)
        (by omega)
      exact ⟨by omega, rfl⟩

theorem eq_of_valueOf_eq {s t : List Char} (hs : ∀ c ∈ s, c.isDigit = true)
    (ht : ∀ c ∈ t, c.isDigit = true) (hlength : s.length = t.length)
    (h : valueOf s = valueOf t) : s = t :=
  (valueFrom_inj hs ht hlength h).2

/-- Digits are filled up with just the zeros that are needed if there are no more than the least
number of them, or no zero is in front. -/
theorem eq_paddedDigits_iff {s : List Char} (hs : ∀ c ∈ s, c.isDigit = true) {width : Nat}
    (hwidth : 0 < width) :
    s = paddedDigits width (valueOf s) ↔
      s.length = width ∨ width < s.length ∧ s.head? ≠ some '0' := by
  have hpadded {width : Nat} : ∀ c ∈ paddedDigits width (valueOf s), c.isDigit = true :=
    fun _ => isDigit_of_mem_paddedDigits
  -- Filled up to their own number, digits are themselves.
  have hself (hpos : 0 < s.length) : s = paddedDigits s.length (valueOf s) :=
    eq_of_valueOf_eq hs hpadded (length_paddedDigits hpos (valueOf_lt hs)).symm
      (valueOf_paddedDigits _ _).symm
  constructor
  · intro h
    have hlength : s.length = width - (digitsOf (valueOf s)).length +
        (digitsOf (valueOf s)).length := by
      conv_lhs => rw [h, paddedDigits, List.length_append, List.length_replicate]
    by_cases hle : (digitsOf (valueOf s)).length ≤ width
    · exact .inl (by omega)
    · rw [paddedDigits_of_le (by omega)] at h
      refine .inr ⟨by omega, fun hhead => hle ?_⟩
      rw [h] at hhead
      rw [head_digitsOf hhead]
      exact length_digitsOf_le hwidth (Nat.pow_pos (by decide))
  · rintro (rfl | ⟨hlong, hhead⟩)
    · exact hself hwidth
    · have hall := hself (Nat.lt_trans hwidth hlong)
      have hno : s.length - (digitsOf (valueOf s)).length = 0 := by
        cases hzeros : s.length - (digitsOf (valueOf s)).length with
        | zero => rfl
        | succ k =>
          rw [paddedDigits, hzeros] at hall
          exact absurd (congrArg List.head? hall) hhead
      rw [paddedDigits_of_le (by omega)] at hall ⊢
      exact hall

end Dossier
