import Dossier.Json.Printer
import Dossier.Json.Reader
import Dossier.Proofs.Number.Digits
import Mathlib.Data.List.TakeDrop
import Mathlib.Data.List.TakeWhile

/-!
# Strings and numbers in JSON texts

What is written as a string or a number is read back, in front of any text that can follow it.

* `readString_quote`, `readNumberKey_quote` : strings and keys;
* `NumberEnds` : the texts that can follow a number;
* `readNumber_append` : a number that is read alone is read in front of them;
* `readNumber_intText` : integers of 64 bits.
-/

namespace Dossier.Json

/-! ## Strings -/

theorem hexUnit?_control {n : Nat} (h : n < 0x20) :
    ∃ a b c d, hexDigitsOf 4 n = [a, b, c, d] ∧ hexUnit? a b c d = some n := by
  have hunit : ∀ n < 0x20, hexUnit? (hexDigitChar (n / 16 / 16 / 16 % 16))
      (hexDigitChar (n / 16 / 16 % 16)) (hexDigitChar (n / 16 % 16)) (hexDigitChar (n % 16)) =
        some n := by decide
  exact ⟨_, _, _, _, rfl, hunit n h⟩

/-- A character as it is written is read as one character. -/
theorem readString_quoteChar (c : Char) (rest : List Char) :
    readString (quoteChar c ++ rest) = (readString rest).map fun r => (c :: r.1, r.2) := by
  unfold quoteChar
  split_ifs with h1 h2 h3 h4 h5 h6 h7 h8
  · subst h1
    simp [readString, simpleEscape?]
  · subst h2
    simp [readString, simpleEscape?]
  · subst h3
    simp [readString, simpleEscape?]
  · subst h4
    simp [readString, simpleEscape?]
  · subst h5
    simp [readString, simpleEscape?]
  · subst h6
    simp [readString, simpleEscape?]
  · subst h7
    simp [readString, simpleEscape?]
  · obtain ⟨a, b, d, e, hdigits, hunit⟩ := hexUnit?_control h8
    rw [hdigits]
    simp only [List.cons_append, List.nil_append, readString, hunit]
    rw [if_neg (by omega), if_neg (by omega), Char.ofNat_toNat]
  · simp [readString, h2, h8]

/-- The characters of a string are read up to its closing quotation mark. -/
theorem readString_quote (s rest : List Char) :
    readString (s.flatMap quoteChar ++ '"' :: rest) = some (s, rest) := by
  induction s with
  | nil => simp [readString]
  | cons c s ih => simp [List.flatMap_cons, List.append_assoc, readString_quoteChar, ih]

/-- A digit is written without an escape. -/
theorem quoteChar_of_isDigit {c : Char} (h : c.isDigit = true) : quoteChar c = [c] := by
  have hall : ∀ d < 10, quoteChar (digitChar d) = [digitChar d] := by decide
  have hvalue := digitValue_lt h
  have hc : c = digitChar (digitValue c) :=
    eq_of_digitValue_eq h (isDigit_digitChar hvalue) (digitValue_digitChar hvalue).symm
  rw [hc]
  exact hall _ hvalue

/-- A key is read as the string it is, since no digit in it is written with an escape. -/
theorem readNumberKey_quote (s rest : List Char) :
    readNumberKey (s.flatMap quoteChar ++ '"' :: rest) = some (s, rest) := by
  simp only [readNumberKey, readString_quote, Option.map_some]
  split_ifs with hdigits
  · rw [List.all_eq_true] at hdigits
    have hplain : ∀ c ∈ s, decide (c ≠ '"') = true := by
      intro c hc
      refine decide_eq_true ?_
      rintro rfl
      exact absurd (hdigits _ hc) (by decide)
    rw [List.flatMap_congr fun c hc => quoteChar_of_isDigit (hdigits c hc), List.flatMap_singleton',
      List.takeWhile_append_of_pos hplain]
    simp
  · rfl

/-- A key of digits stands in the text as it is read. -/
theorem readNumberKey_digits {s key rest : List Char} (h : readNumberKey s = some (key, rest))
    (hkey : ∀ c ∈ key, c.isDigit = true) : key <+: s := by
  obtain ⟨⟨text, after⟩, -, heq⟩ := Option.map_eq_some_iff.mp h
  obtain ⟨rfl, -⟩ := Prod.mk.inj heq
  split_ifs at hkey ⊢ with hdigits
  · exact List.takeWhile_prefix _
  · exact absurd (List.all_eq_true.mpr hkey) hdigits

/-! ## Numbers -/

/-- A text that can follow a number: it starts with nothing that could belong to one. -/
def NumberEnds (rest : List Char) : Prop :=
  ∀ c ∈ rest.head?, c.isDigit = false ∧ c ≠ '.' ∧ c ≠ 'e' ∧ c ≠ 'E'

theorem NumberEnds.nil : NumberEnds [] := by simp [NumberEnds]

theorem NumberEnds.cons {c : Char} (h : c = ',' ∨ c = ']' ∨ c = '}') (rest : List Char) :
    NumberEnds (c :: rest) := by
  intro d hd
  obtain rfl := Option.some.inj hd
  rcases h with rfl | rfl | rfl <;> decide

section Append

variable {s after rest : List Char}

theorem spanDigits_of_ends (hrest : NumberEnds rest) : spanDigits rest = ([], rest) := by
  cases rest with
  | nil => rfl
  | cons c rest => simp [spanDigits, List.span_eq_takeWhile_dropWhile, (hrest c rfl).1]

/-- Digits end where they end, whatever follows. -/
theorem spanDigits_append {digits : List Char} (h : spanDigits s = (digits, after))
    (hrest : NumberEnds rest) : spanDigits (s ++ rest) = (digits, after ++ rest) := by
  induction s generalizing digits with
  | nil =>
    cases h
    exact spanDigits_of_ends hrest
  | cons c s ih =>
    simp only [spanDigits, List.span_eq_takeWhile_dropWhile, List.cons_append,
      List.takeWhile_cons, List.dropWhile_cons, Prod.mk.injEq] at h ih ⊢
    split_ifs at h ⊢ with hc
    · obtain ⟨rfl, rfl⟩ := h
      rw [(ih ⟨rfl, rfl⟩).1, (ih ⟨rfl, rfl⟩).2]
      exact ⟨rfl, rfl⟩
    · obtain ⟨rfl, rfl⟩ := h
      exact ⟨rfl, rfl⟩

variable {negative : Bool} {significand : Nat} {exponent : Int} {j : Json}

/-- The sign of an exponent, and what follows it. -/
def exponentSign (s : List Char) : Bool × List Char :=
  match s with
  | '+' :: rest => (false, rest)
  | '-' :: rest => (true, rest)
  | _ => (false, s)

/-- The number that an exponent makes of a significand. -/
def withExponent (negative : Bool) (significand : Nat) (exponent : Int) (down : Bool)
    (power : Nat) : Option Float :=
  if power > maxExponent then
    if significand = 0 ∨ down then some (if negative then (-0.0 : Float) else 0.0) else none
  else scaled? negative significand (if down then exponent - power else exponent + power)

theorem readExponent_eq (negative : Bool) (significand : Nat) (exponent : Int) (s : List Char) :
    readExponent negative significand exponent s =
      let (digits, rest) := spanDigits (exponentSign s).2
      if digits.isEmpty then none
      else (withExponent negative significand exponent (exponentSign s).1 (valueOf digits)).map
        fun x => (float x, rest) := by
  unfold readExponent
  split
  rename_i down t hsign
  rw [show exponentSign s = (down, t) from hsign]
  rfl

theorem exponentSign_append (hne : s ≠ []) (rest : List Char) :
    exponentSign (s ++ rest) = ((exponentSign s).1, (exponentSign s).2 ++ rest) := by
  obtain ⟨c, s, rfl⟩ := List.exists_cons_of_ne_nil hne
  by_cases hplus : c = '+'
  · subst hplus
    rfl
  by_cases hminus : c = '-'
  · subst hminus
    rfl
  simp [exponentSign, hplus, hminus]

theorem readExponent_append (h : readExponent negative significand exponent s = some (j, after))
    (hrest : NumberEnds rest) :
    readExponent negative significand exponent (s ++ rest) = some (j, after ++ rest) := by
  have hne : s ≠ [] := by
    rintro rfl
    simp [readExponent, spanDigits] at h
  obtain ⟨⟨digits, r⟩, hspan⟩ : ∃ p, spanDigits (exponentSign s).2 = p := ⟨_, rfl⟩
  rw [readExponent_eq, hspan] at h
  rw [readExponent_eq, exponentSign_append hne, spanDigits_append hspan hrest]
  simp only at h ⊢
  split_ifs at h ⊢
  obtain ⟨x, hx, heq⟩ := Option.map_eq_some_iff.mp h
  obtain ⟨rfl, rfl⟩ := Prod.mk.inj heq
  rw [hx]
  rfl

/-- Without a power of ten, the number ends with its significand. -/
theorem readScale_of_ne (negative : Bool) (significand : Nat) (exponent : Int)
    (hlow : s.head? ≠ some 'e') (hhigh : s.head? ≠ some 'E') :
    readScale negative significand exponent s =
      (scaled? negative significand exponent).map fun x => (float x, s) := by
  unfold readScale
  split
  · exact absurd rfl hlow
  · exact absurd rfl hhigh
  · rfl

theorem head?_append_ne {c : Char} (hs : s.head? ≠ some c) (hrest : rest.head? ≠ some c) :
    (s ++ rest).head? ≠ some c := by
  cases s with
  | nil => exact hrest
  | cons d s => exact hs

theorem NumberEnds.head?_ne (h : NumberEnds rest) :
    rest.head? ≠ some '.' ∧ rest.head? ≠ some 'e' ∧ rest.head? ≠ some 'E' :=
  ⟨fun hc => (h _ hc).2.1 rfl, fun hc => (h _ hc).2.2.1 rfl, fun hc => (h _ hc).2.2.2 rfl⟩

theorem readScale_append (h : readScale negative significand exponent s = some (j, after))
    (hrest : NumberEnds rest) :
    readScale negative significand exponent (s ++ rest) = some (j, after ++ rest) := by
  by_cases hlow : s.head? = some 'e'
  · obtain ⟨t, rfl⟩ := List.head?_eq_some_iff.mp hlow
    exact readExponent_append h hrest
  by_cases hhigh : s.head? = some 'E'
  · obtain ⟨t, rfl⟩ := List.head?_eq_some_iff.mp hhigh
    exact readExponent_append h hrest
  obtain ⟨-, hlow', hhigh'⟩ := hrest.head?_ne
  rw [readScale_of_ne _ _ _ hlow hhigh] at h
  obtain ⟨x, hx, heq⟩ := Option.map_eq_some_iff.mp h
  obtain ⟨rfl, rfl⟩ := Prod.mk.inj heq
  rw [readScale_of_ne _ _ _ (head?_append_ne hlow hlow') (head?_append_ne hhigh hhigh'), hx]
  rfl

/-- Reads what follows the digits in front of the point. -/
def afterWhole (negative : Bool) (significand dropped : Nat) (rest : List Char) :
    Option (Json × List Char) :=
  match rest with
  | '.' :: rest =>
    let (fraction, rest) := spanDigits rest
    if fraction.isEmpty then none
    else
      let (significand, used) := fillSignificand significand fraction
      readScale negative significand ((dropped : Int) - used) rest
  | 'e' :: _ => readScale negative significand dropped rest
  | 'E' :: _ => readScale negative significand dropped rest
  | _ => (integer? negative significand dropped).map fun j => (j, rest)

theorem readUnsigned_eq (negative : Bool) (s : List Char) :
    readUnsigned negative s =
      let (whole, rest) := spanDigits s
      if whole.isEmpty || (whole.head? == some '0' && whole.length != 1) then none
      else
        let (significand, used) := fillSignificand 0 whole
        afterWhole negative significand (whole.length - used) rest := rfl

theorem afterWhole_of_ne (negative : Bool) (significand dropped : Nat)
    (hpoint : s.head? ≠ some '.') (hlow : s.head? ≠ some 'e') (hhigh : s.head? ≠ some 'E') :
    afterWhole negative significand dropped s =
      (integer? negative significand dropped).map fun j => (j, s) := by
  unfold afterWhole
  split
  · exact absurd rfl hpoint
  · exact absurd rfl hlow
  · exact absurd rfl hhigh
  · rfl

theorem afterWhole_append {dropped : Nat}
    (h : afterWhole negative significand dropped s = some (j, after)) (hrest : NumberEnds rest) :
    afterWhole negative significand dropped (s ++ rest) = some (j, after ++ rest) := by
  by_cases hpoint : s.head? = some '.'
  · obtain ⟨t, rfl⟩ := List.head?_eq_some_iff.mp hpoint
    obtain ⟨⟨fraction, r⟩, hspan⟩ : ∃ p, spanDigits t = p := ⟨_, rfl⟩
    rw [List.cons_append]
    simp only [afterWhole, hspan, spanDigits_append hspan hrest] at h ⊢
    split_ifs at h ⊢
    exact readScale_append h hrest
  by_cases hlow : s.head? = some 'e'
  · obtain ⟨t, rfl⟩ := List.head?_eq_some_iff.mp hlow
    have h : readScale negative significand dropped ('e' :: t) = some (j, after) := h
    exact readScale_append h hrest
  by_cases hhigh : s.head? = some 'E'
  · obtain ⟨t, rfl⟩ := List.head?_eq_some_iff.mp hhigh
    have h : readScale negative significand dropped ('E' :: t) = some (j, after) := h
    exact readScale_append h hrest
  obtain ⟨hpoint', hlow', hhigh'⟩ := hrest.head?_ne
  rw [afterWhole_of_ne _ _ _ hpoint hlow hhigh] at h
  obtain ⟨j', hj, heq⟩ := Option.map_eq_some_iff.mp h
  obtain ⟨rfl, rfl⟩ := Prod.mk.inj heq
  rw [afterWhole_of_ne _ _ _ (head?_append_ne hpoint hpoint') (head?_append_ne hlow hlow')
    (head?_append_ne hhigh hhigh'), hj]
  rfl

theorem readUnsigned_append (h : readUnsigned negative s = some (j, after))
    (hrest : NumberEnds rest) : readUnsigned negative (s ++ rest) = some (j, after ++ rest) := by
  obtain ⟨⟨whole, r⟩, hspan⟩ : ∃ p, spanDigits s = p := ⟨_, rfl⟩
  rw [readUnsigned_eq, hspan] at h
  rw [readUnsigned_eq, spanDigits_append hspan hrest]
  simp only at h ⊢
  split_ifs at h ⊢
  exact afterWhole_append h hrest

/-- A number is read in front of any text that can follow it. -/
theorem readNumber_append (h : readNumber s = some (j, after)) (hrest : NumberEnds rest) :
    readNumber (s ++ rest) = some (j, after ++ rest) := by
  cases s with
  | nil => cases h
  | cons c s =>
    by_cases hminus : c = '-'
    · subst hminus
      exact readUnsigned_append h hrest
    · have hplain : ∀ t, readNumber (c :: t) = readUnsigned false (c :: t) := by
        intro t
        unfold readNumber
        split
        · simp_all
        · rfl
      rw [List.cons_append, hplain]
      exact readUnsigned_append ((hplain s).symm.trans h) hrest

end Append

/-! ## Integers -/

/-- Digits fit into a significand if the number that they stand for does. -/
theorem fillSignificand_eq {significand : Nat} {digits : List Char}
    (h : valueFrom significand digits ≤ maxSignificand) :
    fillSignificand significand digits = (valueFrom significand digits, digits.length) := by
  induction digits generalizing significand with
  | nil => rfl
  | cons c digits ih =>
    have hfits : 10 * significand + digitValue c ≤ maxSignificand :=
      Nat.le_trans (le_valueFrom _ digits) h
    rw [fillSignificand, if_pos hfits, ih h]
    rfl

theorem readUnsigned_digitsOf (negative : Bool) {n : Nat} (h : n ≤ maxSignificand) :
    readUnsigned negative (digitsOf n) = (integer? negative n 0).map fun j => (j, []) := by
  have hspan : spanDigits (digitsOf n) = (digitsOf n, []) := by
    have hdigits : ∀ c ∈ digitsOf n, c.isDigit = true := fun _ => isDigit_of_mem_digitsOf
    rw [spanDigits, List.span_eq_takeWhile_dropWhile, List.takeWhile_eq_self_iff.mpr hdigits,
      List.dropWhile_eq_nil_iff.mpr hdigits]
  have hproper : ((digitsOf n).isEmpty ||
      ((digitsOf n).head? == some '0' && (digitsOf n).length != 1)) = false := by
    by_cases hzero : n = 0
    · subst hzero
      simp [digitsOf]
    · have hhead : ((digitsOf n).head? == some '0') = false :=
        beq_false_of_ne fun h => hzero (head_digitsOf h)
      rw [hhead, List.isEmpty_eq_false_iff.mpr (digitsOf_ne_nil n)]
      rfl
  have hfill : fillSignificand 0 (digitsOf n) = (n, (digitsOf n).length) := by
    have hvalue : valueFrom 0 (digitsOf n) = n := valueOf_digitsOf n
    rw [fillSignificand_eq (by rw [hvalue]; exact h), hvalue]
  rw [readUnsigned_eq, hspan]
  simp only [hproper, hfill, Nat.sub_self, Bool.false_eq_true, if_false]
  rfl

/-- Integers of 64 bits, with or without a sign, are read back. -/
theorem readNumber_intText {n : Int} (hlow : -(twoTo 63 : Int) ≤ n) (hhigh : n < twoTo 64)
    {rest : List Char} (hrest : NumberEnds rest) :
    readNumber (intText n ++ rest) = some (int n, rest) := by
  have hmax : maxSignificand = twoTo 64 - 1 := rfl
  have htwice : twoTo 64 = 2 * twoTo 63 := by decide
  suffices h : readNumber (intText n) = some (int n, []) from readNumber_append h hrest
  unfold intText
  split
  · show readUnsigned true (digitsOf n.natAbs) = _
    rw [readUnsigned_digitsOf true (by omega)]
    have hnumber : integer? true n.natAbs 0 = some (int n) := by
      have hsmall : ¬(n.natAbs = 0 ∨ twoTo 63 < n.natAbs) := by omega
      have habs : -(n.natAbs : Int) = n := by omega
      rw [integer?, if_neg (by simp), if_neg (by simp), if_neg hsmall, habs]
    rw [hnumber]
    rfl
  · have hplain : readNumber (digitsOf n.natAbs) = readUnsigned false (digitsOf n.natAbs) := by
      unfold readNumber
      split
      · rename_i rest' h
        have hminus : ('-' : Char) ∈ digitsOf n.natAbs := by rw [h]; exact List.mem_cons_self
        exact absurd (isDigit_of_mem_digitsOf hminus) (by decide)
      · rfl
    have habs : (n.natAbs : Int) = n := by omega
    rw [hplain, readUnsigned_digitsOf false (by omega), integer?]
    simp [habs]

end Dossier.Json
