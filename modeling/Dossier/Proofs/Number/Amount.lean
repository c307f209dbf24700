import Dossier.Number.Amount
import Dossier.Proofs.Number.Digits
import Mathlib.Data.List.TakeWhile

/-!
# Amounts that are read and written

Amounts that are read keep within the limits of amounts, and zero has no sign. Such an amount is
read from its text. A text is read to its end, also where its digits have no room any more.

* `Proper` : the amounts within the limits;
* `proper_of_read?` : every amount that is read;
* `all_of_read?` : the characters of every text that is read;
* `spelled` : a sign, digits, and decimals behind a point;
* `read?_spelled` : the amount of such a text, if there is room for it;
* `read?_text` : an amount is read from its text.
-/

namespace Dossier.Amount

/-- An amount within the limits, in which zero has no sign. -/
structure Proper (a : Amount) : Prop where
  units_le : a.units ≤ maxUnits
  places_le : a.places ≤ maxPlaces
  unsigned : a.units = 0 → a.negative = false

theorem Proper.make_eq {a : Amount} (h : a.Proper) : make a.negative a.units a.places = a := by
  obtain ⟨negative, units, places⟩ := a
  have hzero : units = 0 → negative = false := h.unsigned
  by_cases hunits : units = 0 <;> simp_all [make]

section Limits

variable {negative : Bool} {units places : Nat}

theorem proper_make (hunits : units ≤ maxUnits) (hplaces : places ≤ maxPlaces) :
    (make negative units places).Proper where
  units_le := hunits
  places_le := hplaces
  unsigned := by
    intro hzero
    have hunits : units = 0 := hzero
    simp [make, hunits]

theorem proper_of_round? {excess : List Char} {a : Amount} (hunits : units ≤ maxUnits)
    (hplaces : places ≤ maxPlaces) (h : round? negative units places excess = some a) :
    a.Proper := by
  unfold round? at h
  split_ifs at h with _ _ hroom hzero <;> obtain rfl := Option.some.inj h
  · exact proper_make hroom hplaces
  · exact proper_make (by omega) (by omega)
  · exact proper_make hunits hplaces

/-- What has been read so far is within the limits, whatever comes next. -/
theorem proper_of_readUnits {afterPoint hasDigit : Bool} {s : List Char} {a : Amount}
    (hunits : units ≤ maxUnits) (hplaces : places ≤ maxPlaces)
    (h : readUnits negative units places afterPoint hasDigit s = some a) : a.Proper := by
  induction s generalizing units places afterPoint hasDigit with
  | nil =>
    rw [readUnits] at h
    split_ifs at h
    obtain rfl := Option.some.inj h
    exact proper_make hunits hplaces
  | cons c s ih =>
    rw [readUnits] at h
    simp only at h
    split_ifs at h with hfull hdigit hroom hpoint hpoint
    · exact proper_of_round? hunits hplaces h
    · refine ih hroom ?_ h
      simp only [hpoint, Bool.true_and, beq_iff_eq] at hfull
      omega
    · exact ih hroom hplaces h
    · exact proper_of_round? hunits hplaces h
    · exact ih hunits hplaces h
    · exact ih hunits hplaces h

end Limits

theorem proper_of_readPlain? {s : List Char} {a : Amount} (h : readPlain? s = some a) :
    a.Proper := by
  unfold readPlain? at h
  split at h <;> exact proper_of_readUnits (Nat.zero_le _) (Nat.zero_le _) h

theorem proper_of_shiftUp? {a b : Amount} {power : Nat} (ha : a.Proper)
    (h : a.shiftUp? power = some b) : b.Proper := by
  have := ha.places_le
  unfold shiftUp? at h
  simp only at h
  split_ifs at h with _ _ hroom <;> obtain rfl := Option.some.inj h
  · exact proper_make ha.units_le (by omega)
  · exact proper_make hroom (Nat.zero_le _)
  · exact proper_make (Nat.zero_le _) (Nat.zero_le _)

theorem proper_of_shiftDown? {a b : Amount} {power : Nat} (ha : a.Proper)
    (h : a.shiftDown? power = some b) : b.Proper := by
  unfold shiftDown? at h
  split_ifs at h with hroom
  obtain rfl := Option.some.inj h
  exact proper_make ha.units_le hroom

/-- Every amount that is read is within the limits. -/
theorem proper_of_read? {s : List Char} {a : Amount} (h : read? s = some a) : a.Proper := by
  unfold read? at h
  simp only at h
  split at h
  · exact proper_of_readPlain? h
  · obtain ⟨base, hbase, h⟩ := Option.bind_eq_some_iff.mp h
    have hproper := proper_of_readPlain? hbase
    split at h
    · obtain ⟨power, -, h⟩ := Option.bind_eq_some_iff.mp h
      exact proper_of_shiftDown? hproper h
    · obtain ⟨power, -, h⟩ := Option.bind_eq_some_iff.mp h
      exact proper_of_shiftUp? hproper h

/-! ## Characters -/

/-- Whether the units of an amount can be written with a character. -/
def inUnits (c : Char) : Bool := c.isDigit || c == '_' || c == '.'

/-- Whether an amount can be written with a character. -/
def inAmount (c : Char) : Bool := inUnits c || c == '+' || c == '-' || c == 'e' || c == 'E'

/-- Digits that are rounded away are read to the end of the text. -/
theorem all_of_round? {negative : Bool} {units places : Nat} {excess : List Char} {a : Amount}
    (h : round? negative units places excess = some a) : excess.all inUnits = true := by
  unfold round? at h
  split at h
  · rename_i hall
    refine List.all_eq_true.mpr fun c hc => ?_
    rw [inUnits, List.all_eq_true.mp hall c hc, Bool.true_or]
  · cases h

theorem all_of_readUnits {negative : Bool} {units places : Nat} {afterPoint hasDigit : Bool}
    {s : List Char} {a : Amount} (h : readUnits negative units places afterPoint hasDigit s = some a) :
    s.all inUnits = true := by
  induction s generalizing units places afterPoint hasDigit with
  | nil => rfl
  | cons c s ih =>
    rw [readUnits] at h
    simp only at h
    split_ifs at h with hfull hdigit _ _ _ hpoint hunderscore
    · exact all_of_round? h
    · simp [inUnits, hdigit, ih h]
    · simp [inUnits, hdigit, ih h]
    · exact all_of_round? h
    · simp [inUnits, hpoint.1, ih h]
    · simp [inUnits, hunderscore.1, ih h]

theorem all_of_readPlain? {s : List Char} {a : Amount} (h : readPlain? s = some a) :
    s.all inAmount = true := by
  have hunits : ∀ {s : List Char}, s.all inUnits = true → s.all inAmount = true :=
    fun hs => List.all_eq_true.mpr fun c hc => by simp [inAmount, List.all_eq_true.mp hs c hc]
  unfold readPlain? at h
  split at h
  · rw [List.all_cons, hunits (all_of_readUnits h)]
    rfl
  · rw [List.all_cons, hunits (all_of_readUnits h)]
    rfl
  · exact hunits (all_of_readUnits h)

theorem all_of_readPower? {s : List Char} {power : Nat} (h : readPower? s = some power) :
    s.all inAmount = true := by
  have hdigits : ∀ {digits : List Char}, digits.all Char.isDigit = true →
      digits.all inAmount = true :=
    fun hd => List.all_eq_true.mpr fun c hc => by
      simp [inAmount, inUnits, List.all_eq_true.mp hd c hc]
  unfold readPower? at h
  simp only at h
  split_ifs at h with hrefused
  simp only [Bool.or_eq_true, Bool.not_eq_true', not_or, Bool.not_eq_false] at hrefused
  obtain ⟨⟨-, hall⟩, -⟩ := hrefused
  split at hall
  · rw [List.all_cons, hdigits hall]
    rfl
  · exact hdigits hall

/-- A text that is read consists of digits, underscores, points, signs and the letter of a power. -/
theorem all_of_read? {s : List Char} {a : Amount} (h : read? s = some a) :
    s.all inAmount = true := by
  have hsplit := List.takeWhile_append_dropWhile (l := s) (p := fun c => c != 'e' && c != 'E')
  have hfirst := List.head?_dropWhile_not (fun c => c != 'e' && c != 'E') s
  unfold read? at h
  simp only at h
  generalize s.takeWhile (fun c => c != 'e' && c != 'E') = base at hsplit h
  generalize s.dropWhile (fun c => c != 'e' && c != 'E') = rest at hsplit hfirst
  have hrest : s.drop base.length = rest := by rw [← hsplit, List.drop_left]
  rw [hrest] at h
  cases rest with
  | nil => exact all_of_readPlain? h
  | cons e power =>
    obtain ⟨base', hbase, h⟩ := Option.bind_eq_some_iff.mp h
    have hletter : inAmount e = true := by
      have he : e = 'e' ∨ e = 'E' := by simpa [or_iff_not_imp_left] using hfirst
      rcases he with rfl | rfl <;> rfl
    have hpower : power.all inAmount = true := by
      split at h
      · obtain ⟨n, hn, -⟩ := Option.bind_eq_some_iff.mp h
        rw [List.all_cons, all_of_readPower? hn]
        rfl
      · obtain ⟨n, hn, -⟩ := Option.bind_eq_some_iff.mp h
        exact all_of_readPower? hn
    rw [← hsplit, List.all_append, all_of_readPlain? hbase, List.all_cons, hletter, hpower]
    rfl

/-- A comma is found out behind digits that have no room any more. -/
example : read? "0.11111111111111111111111111111,123".toList = none := by decide +kernel

/-! ## Digits and decimals -/

section Digits

variable {negative : Bool} {units places : Nat} {digits : List Char}
  (hdigits : ∀ c ∈ digits, c.isDigit = true) (hfits : valueFrom units digits ≤ maxUnits)

include hdigits hfits

/-- Digits in front of a point, as long as there is room for their value. -/
theorem readUnits_whole (hasDigit : Bool) (rest : List Char) :
    readUnits negative units places false hasDigit (digits ++ rest) =
      readUnits negative (valueFrom units digits) places false (hasDigit || !digits.isEmpty)
        rest := by
  induction digits generalizing units hasDigit with
  | nil => simp [valueFrom]
  | cons c digits ih =>
    have hlonger : 10 * units + digitValue c ≤ maxUnits := Nat.le_trans (le_valueFrom _ _) hfits
    rw [List.cons_append, readUnits]
    simp only [Bool.false_and, Bool.false_eq_true, if_false, hdigits c List.mem_cons_self, if_true,
      hlonger]
    rw [ih (fun d hd => hdigits d (List.mem_cons_of_mem _ hd)) hfits]
    simp [valueFrom]

/-- Digits behind a point, as long as there is room for them. -/
theorem readUnits_decimals (hplaces : places + digits.length ≤ maxPlaces) :
    readUnits negative units places true true digits =
      some (make negative (valueFrom units digits) (places + digits.length)) := by
  induction digits generalizing units places with
  | nil => rfl
  | cons c digits ih =>
    rw [List.length_cons] at hplaces
    have hlonger : 10 * units + digitValue c ≤ maxUnits := Nat.le_trans (le_valueFrom _ _) hfits
    have hroom : (places == maxPlaces) = false := beq_eq_false_iff_ne.mpr (by omega)
    rw [readUnits]
    simp only [Bool.true_and, hroom, Bool.false_eq_true, if_false, if_true, hlonger,
      hdigits c List.mem_cons_self]
    rw [ih (fun d hd => hdigits d (List.mem_cons_of_mem _ hd)) hfits (by omega), List.length_cons,
      Nat.add_assoc, Nat.add_comm 1]
    rfl

end Digits

/-- A sign, digits, and decimals behind a point if there are any. -/
def spelled (negative : Bool) (whole decimals : List Char) : List Char :=
  (if negative then ['-'] else []) ++ whole ++ (if decimals.isEmpty then [] else '.' :: decimals)

theorem mem_spelled {negative : Bool} {whole decimals : List Char} {c : Char}
    (h : c ∈ spelled negative whole decimals) : c = '-' ∨ c = '.' ∨ c ∈ whole ++ decimals := by
  unfold spelled at h
  split_ifs at h <;> grind

/-- The sign in front of a text of digits decides about nothing else. -/
theorem readPlain?_spelled {negative : Bool} {whole decimals : List Char}
    (hwhole : ∀ c ∈ whole.head?, c.isDigit = true) (hne : whole ≠ []) :
    readPlain? (spelled negative whole decimals) =
      readUnits negative 0 0 false false
        (whole ++ if decimals.isEmpty then [] else '.' :: decimals) := by
  cases whole with
  | nil => exact absurd rfl hne
  | cons c whole =>
    have hdigit := hwhole c rfl
    cases negative with
    | true => rfl
    | false =>
      simp only [spelled, Bool.false_eq_true, if_false, List.nil_append, List.cons_append]
      unfold readPlain?
      split
      · rename_i heq
        obtain ⟨rfl, -⟩ := List.cons.inj heq
        cases hdigit
      · rename_i heq
        obtain ⟨rfl, -⟩ := List.cons.inj heq
        cases hdigit
      · rfl

/-- The amount of digits and decimals that there is room for. -/
theorem read?_spelled {negative : Bool} {whole decimals : List Char}
    (hdigits : ∀ c ∈ whole ++ decimals, c.isDigit = true) (hne : whole ≠ [])
    (hfits : valueOf (whole ++ decimals) ≤ maxUnits) (hplaces : decimals.length ≤ maxPlaces) :
    read? (spelled negative whole decimals) =
      some (make negative (valueOf (whole ++ decimals)) decimals.length) := by
  have hbase : (spelled negative whole decimals).takeWhile (fun c => c != 'e' && c != 'E') =
      spelled negative whole decimals := by
    refine List.takeWhile_eq_self_iff.mpr fun c hc => ?_
    have hletter : c ≠ 'e' ∧ c ≠ 'E' := by
      constructor <;>
      · rintro rfl
        rcases mem_spelled hc with h | h | h
        · cases h
        · cases h
        · cases hdigits _ h
    simpa using hletter
  have hwhole : ∀ c ∈ whole, c.isDigit = true := fun c hc => hdigits c (List.mem_append_left _ hc)
  have hdecimals : ∀ c ∈ decimals, c.isDigit = true :=
    fun c hc => hdigits c (List.mem_append_right _ hc)
  rw [valueOf, valueFrom_append] at hfits ⊢
  have hplain : readPlain? (spelled negative whole decimals) =
      some (make negative (valueFrom (valueFrom 0 whole) decimals) decimals.length) := by
    rw [readPlain?_spelled (fun c hc => hwhole c (List.mem_of_mem_head? hc)) hne,
      readUnits_whole hwhole (Nat.le_trans (le_valueFrom _ _) hfits)]
    cases hnone : decimals.isEmpty with
    | true =>
      obtain rfl := List.isEmpty_iff.mp hnone
      simp [readUnits, hne, valueFrom]
    | false =>
      have hpoint (rest : List Char) : readUnits negative (valueFrom 0 whole) 0 false true
          ('.' :: rest) = readUnits negative (valueFrom 0 whole) 0 true true rest := rfl
      simp only [Bool.false_eq_true, if_false, Bool.false_or, List.isEmpty_eq_false_iff.mpr hne,
        Bool.not_false]
      rw [hpoint, readUnits_decimals hdecimals hfits (by omega), Nat.zero_add]
  unfold read?
  simp only [hbase, List.drop_length]
  exact hplain

/-! ## Texts of amounts -/

/-- The text of an amount has all its places, and one digit at least in front of them. -/
theorem text_eq (a : Amount) :
    ∃ whole decimals, a.text = spelled a.negative whole decimals ∧ whole ≠ [] ∧
      decimals.length = a.places ∧ whole ++ decimals = paddedDigits (a.places + 1) a.units := by
  have hlength : a.places + 1 ≤ (paddedDigits (a.places + 1) a.units).length := by
    rw [paddedDigits, List.length_append, List.length_replicate]
    omega
  obtain ⟨digits, hdigits⟩ : ∃ digits, paddedDigits (a.places + 1) a.units = digits := ⟨_, rfl⟩
  rw [hdigits] at hlength ⊢
  have hplaces : (digits.drop (digits.length - a.places)).length = a.places := by
    rw [List.length_drop]
    omega
  refine ⟨digits.take (digits.length - a.places), digits.drop (digits.length - a.places), ?_, ?_,
    hplaces, List.take_append_drop _ _⟩
  · have hempty : (digits.drop (digits.length - a.places)).isEmpty = decide (a.places = 0) := by
      rw [Bool.eq_iff_iff, List.isEmpty_iff_length_eq_zero, hplaces, decide_eq_true_iff]
    simp only [text, hdigits, spelled, hempty, decide_eq_true_eq]
  · intro hnil
    have := congrArg List.length hnil
    rw [List.length_take, List.length_nil] at this
    omega

theorem mem_text {a : Amount} {c : Char} (h : c ∈ a.text) : c = '-' ∨ c = '.' ∨ c.isDigit = true := by
  obtain ⟨whole, decimals, htext, -, -, hdigits⟩ := a.text_eq
  rw [htext] at h
  rcases mem_spelled h with h | h | h
  · exact .inl h
  · exact .inr (.inl h)
  · exact .inr (.inr (isDigit_of_mem_paddedDigits (hdigits ▸ h)))

/-- An amount is read from its text. -/
theorem read?_text {a : Amount} (h : a.Proper) : read? a.text = some a := by
  obtain ⟨whole, decimals, htext, hne, hplaces, hdigits⟩ := a.text_eq
  have hvalue : valueOf (whole ++ decimals) = a.units := by rw [hdigits, valueOf_paddedDigits]
  rw [htext, read?_spelled (fun c hc => isDigit_of_mem_paddedDigits (hdigits ▸ hc)) hne
    (hvalue ▸ h.units_le) (hplaces ▸ h.places_le), hvalue, hplaces, h.make_eq]

end Dossier.Amount
