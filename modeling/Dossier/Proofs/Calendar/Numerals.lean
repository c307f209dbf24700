import Dossier.Calendar.Reader
import Dossier.Proofs.Number.Digits
import Mathlib.Data.List.TakeWhile
import Mathlib.Tactic.Common

/-!
# Numbers in the texts of dates

A field for a number is read from blanks or none, a sign or none, and digits. With a sign there may
be any number of digits.

* `Numeral` : a number as it is written, and its text and value;
* `Numeral.Proper` : the numbers that a field is read from;
* `readItem_numeral` : a number in front of a text that starts with no digit is read as a field;
* `exists_numeral` : a field is read from nothing else;
* `Numeral.Proper.unique` : a text is a number in front of another text in one way only;
* `Numeral.written` : a number as dates are written with it;
* `Numeral.Proper.exact_iff` : how such a number looks.
-/

namespace Dossier.Calendar

/-- The sign of a number, if it is written. -/
inductive Numeral.Sign where
  | none
  | plus
  | minus
deriving DecidableEq

/-- A number as it is written: blanks, a sign, and digits. -/
structure Numeral where
  blanks : List Char := []
  sign : Numeral.Sign := .none
  digits : List Char
deriving DecidableEq

namespace Numeral

namespace Sign

def text : Sign → List Char
  | none => []
  | plus => ['+']
  | minus => ['-']

def apply : Sign → Nat → Int
  | none, n => n
  | plus, n => n
  | minus, n => -n

end Sign

def text (p : Numeral) : List Char := p.blanks ++ (p.sign.text ++ p.digits)

def value (p : Numeral) : Int := p.sign.apply (valueOf p.digits)

/-- A field for a number is read from it. -/
structure Proper (width : Nat) (signed : Bool) (p : Numeral) : Prop where
  isBlank : ∀ c ∈ p.blanks, Text.isBlank c = true
  isDigit : ∀ c ∈ p.digits, c.isDigit = true
  ne_nil : p.digits ≠ []
  length_le : p.sign = .none → p.digits.length ≤ width
  sign : signed = false → p.sign = .none

end Numeral

/-! ## Blanks and digits -/

/-- Where a row of characters of one kind ends is clear if the next character is of another kind. -/
theorem takeWhile_append_of_head {kind : Char → Bool} {s t : List Char}
    (hs : ∀ c ∈ s, kind c = true) (ht : ∀ c ∈ t.head?, kind c = false) :
    (s ++ t).takeWhile kind = s := by
  rw [List.takeWhile_append_of_pos hs]
  cases t with
  | nil => exact List.append_nil s
  | cons c t => rw [List.takeWhile_cons_of_neg (by simp [ht c rfl]), List.append_nil]

theorem trimStart_cons {c : Char} (h : Text.isBlank c = false) (rest : List Char) :
    Text.trimStart (c :: rest) = c :: rest := List.dropWhile_cons_of_neg (by simp [h])

section Digits

variable {digits rest : List Char} {width : Nat}

theorem trimStart_digits (hdigits : ∀ c ∈ digits, c.isDigit = true) (hne : digits ≠ []) :
    Text.trimStart (digits ++ rest) = digits ++ rest := by
  cases digits with
  | nil => exact absurd rfl hne
  | cons c digits => exact trimStart_cons (isBlank_of_isDigit (hdigits c List.mem_cons_self)) _

/-- Digits are read up to the first other character. -/
theorem readDigits_append (hdigits : ∀ c ∈ digits, c.isDigit = true) (hne : digits ≠ [])
    (hwidth : digits.length ≤ width) (hvalue : valueOf digits < twoTo 63)
    (hrest : ∀ c ∈ rest.head?, c.isDigit = false) :
    readDigits width (digits ++ rest) = some ((valueOf digits : Int), rest) := by
  have htake : ((digits ++ rest).take width).takeWhile Char.isDigit = digits := by
    rw [List.take_append, List.take_of_length_le hwidth]
    refine takeWhile_append_of_head hdigits fun c hc => hrest c ?_
    rw [List.head?_take] at hc
    split at hc
    · cases hc
    · exact hc
  rw [readDigits, htake, if_neg (by simpa using hne), if_pos hvalue, List.drop_left]

theorem exists_digits {s : List Char} {n : Int} (h : readDigits width s = some (n, rest)) :
    ∃ digits, s = digits ++ rest ∧ (∀ c ∈ digits, c.isDigit = true) ∧ digits ≠ [] ∧
      digits.length ≤ width ∧ (valueOf digits : Int) = n := by
  have htake : (s.take width).takeWhile Char.isDigit <+: s :=
    (List.takeWhile_prefix _).trans (List.take_prefix _ _)
  have hlength := (List.takeWhile_prefix (p := Char.isDigit) (l := s.take width)).length_le
  simp only [readDigits] at h
  split_ifs at h with hne
  obtain ⟨rfl, rfl⟩ := Prod.mk.inj (Option.some.inj h)
  exact ⟨_, (List.prefix_iff_eq_append.mp htake).symm, fun c hc => List.mem_takeWhile_imp hc,
    by simpa using hne, hlength.trans (List.length_take_le _ _), rfl⟩

end Digits

/-! ## Signs -/

section Signs

variable {digits rest : List Char} {width : Nat}

theorem readSigned_of_isDigit {c : Char} (hc : c.isDigit = true) (s : List Char) :
    readSigned width (c :: s) = readDigits width (c :: s) := by
  unfold readSigned
  split
  · rename_i heq
    obtain ⟨rfl, -⟩ := List.cons.inj heq
    cases hc
  · rename_i heq
    obtain ⟨rfl, -⟩ := List.cons.inj heq
    cases hc
  · rfl

theorem readSigned_append (sign : Numeral.Sign) (hdigits : ∀ c ∈ digits, c.isDigit = true)
    (hne : digits ≠ []) (hwidth : sign = .none → digits.length ≤ width)
    (hvalue : valueOf digits < twoTo 63) (hrest : ∀ c ∈ rest.head?, c.isDigit = false) :
    readSigned width (sign.text ++ (digits ++ rest)) =
      some (sign.apply (valueOf digits), rest) := by
  have hread : readDigits (digits ++ rest).length (digits ++ rest) =
      some ((valueOf digits : Int), rest) :=
    readDigits_append hdigits hne (by simp) hvalue hrest
  cases sign with
  | none =>
    have hplain := readDigits_append hdigits hne (hwidth rfl) hvalue hrest
    obtain ⟨c, ds, rfl⟩ := List.exists_cons_of_ne_nil hne
    exact (readSigned_of_isDigit (hdigits c List.mem_cons_self) _).trans hplain
  | plus => exact hread
  | minus => exact congrArg (Option.map _) hread

theorem exists_sign {s : List Char} {n : Int} (h : readSigned width s = some (n, rest)) :
    ∃ sign digits, s = Numeral.Sign.text sign ++ (digits ++ rest) ∧
      (∀ c ∈ digits, c.isDigit = true) ∧ digits ≠ [] ∧
      (sign = .none → digits.length ≤ width) ∧ sign.apply (valueOf digits) = n := by
  unfold readSigned at h
  split at h
  · obtain ⟨⟨m, _⟩, hread, heq⟩ := Option.map_eq_some_iff.mp h
    obtain ⟨rfl, rfl⟩ := Prod.mk.inj heq
    obtain ⟨digits, rfl, hdigits, hne, -, rfl⟩ := exists_digits hread
    exact ⟨.minus, digits, rfl, hdigits, hne, nofun, rfl⟩
  · obtain ⟨digits, rfl, hdigits, hne, -, rfl⟩ := exists_digits h
    exact ⟨.plus, digits, rfl, hdigits, hne, nofun, rfl⟩
  · obtain ⟨digits, rfl, hdigits, hne, hlength, rfl⟩ := exists_digits h
    exact ⟨.none, digits, rfl, hdigits, hne, fun _ => hlength, rfl⟩

end Signs

/-! ## Fields -/

section Fields

variable {field : Field} (hfield : field ≠ .timestamp) {width : Nat} {signed : Bool} {fs : Fields}
  {rest : List Char}

include hfield

theorem readItem_number (fs : Fields) (width : Nat) (signed : Bool) (s : List Char) :
    readItem fs (.number field width signed) s =
      putRead fs field ((if signed then readSigned else readDigits) width (Text.trimStart s)) := by
  rw [readItem, if_neg hfield]
  split <;> rfl

/-- A number is read as a field. -/
theorem readItem_numeral (fs : Fields) {p : Numeral} (h : p.Proper width signed)
    (hvalue : valueOf p.digits < twoTo 63) (hrest : ∀ c ∈ rest.head?, c.isDigit = false) :
    readItem fs (.number field width signed) (p.text ++ rest) =
      (fs.put? field p.value).map fun fs => (fs, rest) := by
  have htrim : Text.trimStart (p.text ++ rest) = p.sign.text ++ (p.digits ++ rest) := by
    have hdigits : Text.trimStart (p.digits ++ rest) = p.digits ++ rest :=
      trimStart_digits h.isDigit h.ne_nil
    rw [Numeral.text, List.append_assoc, List.append_assoc, Text.trimStart,
      List.dropWhile_append_of_pos h.isBlank]
    cases p.sign with
    | none => exact hdigits
    | plus => exact trimStart_cons (by decide) _
    | minus => exact trimStart_cons (by decide) _
  have hread : (if signed then readSigned else readDigits) width
      (p.sign.text ++ (p.digits ++ rest)) = some (p.value, rest) := by
    cases signed with
    | true => exact readSigned_append p.sign h.isDigit h.ne_nil h.length_le hvalue hrest
    | false =>
      rw [Numeral.value, h.sign rfl]
      exact readDigits_append h.isDigit h.ne_nil (h.length_le (h.sign rfl)) hvalue hrest
  rw [readItem_number hfield, htrim, hread]
  rfl

/-- A field is read from a number. -/
theorem exists_numeral {s : List Char} {fs' : Fields}
    (h : readItem fs (.number field width signed) s = some (fs', rest)) :
    ∃ p : Numeral, p.Proper width signed ∧ s = p.text ++ rest ∧
      fs.put? field p.value = some fs' := by
  rw [readItem_number hfield] at h
  obtain ⟨⟨n, _⟩, hread, hadd⟩ := Option.bind_eq_some_iff.mp h
  obtain ⟨_, hput, heq⟩ := Option.map_eq_some_iff.mp hadd
  obtain ⟨rfl, rfl⟩ := Prod.mk.inj heq
  have hblanks : s = s.takeWhile Text.isBlank ++ Text.trimStart s :=
    List.takeWhile_append_dropWhile.symm
  have hblank : ∀ c ∈ s.takeWhile Text.isBlank, Text.isBlank c = true :=
    fun c hc => List.mem_takeWhile_imp hc
  cases signed with
  | true =>
    obtain ⟨sign, digits, htext, hdigits, hne, hlength, rfl⟩ := exists_sign hread
    refine ⟨⟨_, sign, digits⟩, ⟨hblank, hdigits, hne, hlength, nofun⟩, ?_, hput⟩
    rw [Numeral.text, List.append_assoc, List.append_assoc, ← htext]
    exact hblanks
  | false =>
    obtain ⟨digits, htext, hdigits, hne, hlength, rfl⟩ := exists_digits hread
    refine ⟨⟨_, .none, digits⟩, ⟨hblank, hdigits, hne, fun _ => hlength, fun _ => rfl⟩, ?_, hput⟩
    rw [Numeral.text, List.append_assoc, List.append_assoc]
    exact htext ▸ hblanks

end Fields

/-! ## One way only -/

theorem append_unique (kind : Char → Bool) {a b x y : List Char} (ha : ∀ c ∈ a, kind c = true)
    (hb : ∀ c ∈ b, kind c = true) (hx : ∀ c ∈ x.head?, kind c = false)
    (hy : ∀ c ∈ y.head?, kind c = false) (h : a ++ x = b ++ y) : a = b ∧ x = y := by
  have hfront : a = b := by
    rw [← takeWhile_append_of_head ha hx, h, takeWhile_append_of_head hb hy]
  exact ⟨hfront, List.append_cancel_left (hfront ▸ h)⟩

namespace Numeral

theorem Sign.text_inj {a b : Sign} (h : a.text = b.text) : a = b := by
  cases a <;> cases b <;> first | rfl | cases h

theorem Sign.not_isDigit {sign : Sign} {c : Char} (h : c ∈ sign.text) : c.isDigit = false := by
  cases sign with
  | none => cases h
  | plus | minus => rw [List.mem_singleton.mp h]; rfl

namespace Proper

variable {width width' : Nat} {signed signed' : Bool} {p q : Numeral} {x y : List Char}

theorem isDigit_head (h : p.Proper width signed) :
    ∀ c ∈ (p.digits ++ x).head?, c.isDigit = true := by
  obtain ⟨c, digits, hdigits⟩ := List.exists_cons_of_ne_nil h.ne_nil
  rintro _ hc
  rw [hdigits] at hc
  exact h.isDigit _ (hdigits ▸ Option.some.inj hc ▸ List.mem_cons_self)

theorem not_isBlank_head (h : p.Proper width signed) :
    ∀ c ∈ (p.sign.text ++ (p.digits ++ x)).head?, Text.isBlank c = false := by
  intro c hc
  cases hsign : p.sign with
  | none =>
    rw [hsign] at hc
    exact isBlank_of_isDigit (h.isDigit_head c hc)
  | plus | minus =>
    rw [hsign] at hc
    rw [← Option.some.inj hc]
    decide

/-- A text is a number in front of a text that starts with no digit in one way only. -/
theorem unique (hp : p.Proper width signed) (hq : q.Proper width' signed')
    (hx : ∀ c ∈ x.head?, c.isDigit = false) (hy : ∀ c ∈ y.head?, c.isDigit = false)
    (h : p.text ++ x = q.text ++ y) : p = q ∧ x = y := by
  rw [text, text, List.append_assoc, List.append_assoc, List.append_assoc, List.append_assoc] at h
  obtain ⟨hblanks, h⟩ :=
    append_unique _ hp.isBlank hq.isBlank hp.not_isBlank_head hq.not_isBlank_head h
  obtain ⟨hsign, h⟩ := append_unique (fun c => !c.isDigit)
    (fun c hc => by rw [Sign.not_isDigit hc]; rfl) (fun c hc => by rw [Sign.not_isDigit hc]; rfl)
    (fun c hc => by rw [hp.isDigit_head c hc]; rfl) (fun c hc => by rw [hq.isDigit_head c hc]; rfl)
    h
  obtain ⟨hdigits, hrest⟩ := append_unique _ hp.isDigit hq.isDigit hx hy h
  obtain ⟨blanks, sign, digits⟩ := p
  obtain ⟨blanks', sign', digits'⟩ := q
  cases hblanks
  cases Sign.text_inj hsign
  cases hdigits
  exact ⟨rfl, hrest⟩

end Proper

theorem natAbs_value (p : Numeral) : p.value.natAbs = valueOf p.digits := by
  obtain ⟨blanks, sign, digits⟩ := p
  cases sign <;> simp only [value, Sign.apply] <;> omega

/-! ## Written numbers -/

/-- A number as it is written: filled up with zeros, and with a sign only if it is negative or does
not fit. -/
def written (width : Nat) (n : Int) : Numeral where
  sign := if 0 ≤ n ∧ n.natAbs < 10 ^ width then .none else if n < 0 then .minus else .plus
  digits := paddedDigits width n.natAbs

section Written

variable {width : Nat} {signed : Bool}

theorem value_written (width : Nat) (n : Int) : (written width n).value = n := by
  unfold written value
  rw [valueOf_paddedDigits]
  split_ifs <;> simp only [Sign.apply] <;> omega

theorem text_written {n : Nat} (h : n < 10 ^ width) :
    (written width n).text = paddedDigits width n := by
  unfold written text
  rw [if_pos ⟨Int.natCast_nonneg n, h⟩]
  rfl

theorem text_written_year (year : Int) : (written 4 year).text = Date.yearText year := by
  have hfits : (0 ≤ year ∧ year.natAbs < 10 ^ 4) = (0 ≤ year ∧ year ≤ 9999) :=
    propext (by omega)
  simp only [written, text, Date.yearText, hfits]
  split_ifs with hplain
  · rw [← Int.natAbs_of_nonneg hplain.1]
    rfl
  all_goals rfl

theorem proper_written (hwidth : 0 < width) {n : Int}
    (h : signed = false → 0 ≤ n ∧ n.natAbs < 10 ^ width) :
    (written width n).Proper width signed where
  isBlank := nofun
  isDigit _ := isDigit_of_mem_paddedDigits
  ne_nil := paddedDigits_ne_nil width _
  length_le hsign := by
    by_cases hfits : 0 ≤ n ∧ n.natAbs < 10 ^ width
    · exact Nat.le_of_eq (length_paddedDigits hwidth hfits.2)
    · rw [written, if_neg hfits] at hsign
      split_ifs at hsign
  sign hsigned := if_pos (h hsigned)

/-- A number is written without anything that could be left out, and has no more zeros in front than
it takes. -/
structure Exact (width : Nat) (p : Numeral) : Prop where
  blanks : p.blanks = []
  digits : p.digits.length = width ∨ width < p.digits.length ∧ p.digits.head? ≠ some '0'
  plus : p.sign = .plus → width < p.digits.length
  minus : p.sign = .minus → valueOf p.digits ≠ 0

/-- A sign is one that the value is written with. -/
theorem Proper.sign_eq_iff {p : Numeral} (h : p.Proper width signed) :
    p.sign = (written width p.value).sign ↔
      (p.sign = .plus → 10 ^ width ≤ valueOf p.digits) ∧
        (p.sign = .minus → valueOf p.digits ≠ 0) := by
  have hpos : 0 < 10 ^ width := Nat.pow_pos (by decide)
  have hsmall : p.sign = .none → valueOf p.digits < 10 ^ width := fun hsign =>
    Nat.lt_of_lt_of_le (valueOf_lt h.isDigit)
      (Nat.pow_le_pow_right (by decide) (h.length_le hsign))
  rw [written, value]
  generalize valueOf p.digits = n at hsmall ⊢
  cases hsign : p.sign with
  | none => simp [Sign.apply, hsmall hsign]
  | plus =>
    have hnonneg : ¬(n : Int) < 0 := by omega
    by_cases hfits : n < 10 ^ width
    · simp [Sign.apply, hfits]
    · simp [Sign.apply, hfits, hnonneg, Nat.not_lt.mp hfits]
  | minus =>
    by_cases hzero : n = 0
    · simp [Sign.apply, hzero, hpos]
    · simp [Sign.apply, hzero]

/-- These are the numbers as they are written. -/
theorem Proper.exact_iff {p : Numeral} (h : p.Proper width signed) (hwidth : 0 < width) :
    p.Exact width ↔ p = written width p.value := by
  have hpadded := eq_paddedDigits_iff h.isDigit hwidth
  constructor
  · rintro ⟨hblanks, hdigits, hplus, hminus⟩
    have heq := hpadded.mpr hdigits
    have hlarge (hlong : width < p.digits.length) : 10 ^ width ≤ valueOf p.digits := by
      refine Nat.le_of_not_lt fun hlt => ?_
      have := length_paddedDigits hwidth hlt
      rw [← heq] at this
      omega
    have hsign := h.sign_eq_iff.mpr ⟨fun hs => hlarge (hplus hs), hminus⟩
    rw [← p.natAbs_value] at heq
    calc p = ⟨p.blanks, p.sign, p.digits⟩ := rfl
      _ = written width p.value := by rw [hblanks, hsign, heq]; rfl
  · intro heq
    have hdigits : p.digits = paddedDigits width (valueOf p.digits) := by
      rw [← p.natAbs_value]
      exact congrArg Numeral.digits heq
    obtain ⟨hplus, hminus⟩ := h.sign_eq_iff.mp (congrArg Numeral.sign heq)
    refine ⟨congrArg Numeral.blanks heq, hpadded.mp hdigits, fun hs => ?_, hminus⟩
    rcases hpadded.mp hdigits with rfl | hlong
    · exact absurd (valueOf_lt h.isDigit) (Nat.not_lt.mpr (hplus hs))
    · exact hlong.1

end Written

end Numeral

end Dossier.Calendar
