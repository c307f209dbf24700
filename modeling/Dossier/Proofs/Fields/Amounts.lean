import Dossier.Proofs.Fields.Conventions
import Dossier.Proofs.Number.Amount

/-!
# Amounts with two decimals

An amount with two decimals is the same in both ways to write numbers, however its digits are
grouped: the sign in the third place from the end is the decimal one, and the other one counts for
nothing.

* `GroupedAmount` : the texts of an amount with decimals, with blanks and separators of thousands;
* `plainAmount_of_third` : the plain spelling if the decimal sign is in the third place from the end;
* `parseMonetary_grouped` : the amount of a text with two decimals.
-/

namespace Dossier

open Amount

/-- A text of an amount with decimals in the way to write numbers that has a given decimal sign:
apart from blanks, which may be anywhere, a minus sign or none, the digits, which may have
separators of thousands in any places, the decimal sign, and the decimals. -/
def GroupedAmount (sign : DecimalSign) (negative : Bool) (whole decimals : List Char)
    (text : String) : Prop :=
  ∃ grouped : List Char, grouped.filter (· != sign.separator) = whole ∧
    Text.dropBlanks text.toList =
      (if negative then ['-'] else []) ++ grouped ++ sign.sign :: decimals

/-- With the decimal sign in the third place from the end, the separators go and the decimal sign
becomes a point. -/
theorem plainAmount_of_third {sign : DecimalSign} {s t : List Char} (hs : Text.dropBlanks s = t)
    (hthird : t.reverse[2]? = some sign.sign) :
    plainAmount s =
      (t.filter (· != sign.separator)).map fun c => if c = ',' then '.' else c := by
  have hsign : sign.sign ∈ t := List.mem_reverse.mp (List.mem_of_getElem? hthird)
  by_cases hseparator : sign.separator ∈ t
  · have hboth : (t.contains ',' && t.contains '.') = true := by
      rw [Bool.and_eq_true, List.contains_iff_mem, List.contains_iff_mem]
      cases sign with
      | dot => exact ⟨hseparator, hsign⟩
      | comma => exact ⟨hsign, hseparator⟩
    cases sign with
    | dot =>
      simp only [plainAmount, hs, hboth, if_true, hthird, DecimalSign.sign]
      refine ((List.map_congr_left fun c hc => ?_).trans (List.map_id _)).symm
      have hne : c ≠ ',' := by simpa [DecimalSign.separator] using (List.mem_filter.mp hc).2
      rw [if_neg hne, id_eq]
    | comma =>
      simp only [plainAmount, hs, hboth, if_true, hthird, DecimalSign.sign, DecimalSign.separator]
  · have hkept : t.filter (· != sign.separator) = t :=
      List.filter_eq_self.mpr fun c hc => bne_iff_ne.mpr fun heq => hseparator (heq ▸ hc)
    rw [hkept, plainAmount_of_not_mem hs]
    cases sign with
    | dot => exact .inl hseparator
    | comma => exact .inr hseparator

/-- Other characters than points and commas stay as they are. -/
theorem plain_of_ne (sign : DecimalSign) {s : List Char} (h : ∀ c ∈ s, c ≠ ',' ∧ c ≠ '.') :
    s.filter (· != sign.separator) = s ∧ (s.map fun c => if c = ',' then '.' else c) = s := by
  constructor
  · refine List.filter_eq_self.mpr fun c hc => bne_iff_ne.mpr ?_
    cases sign with
    | dot => exact (h c hc).1
    | comma => exact (h c hc).2
  · refine (List.map_congr_left fun c hc => ?_).trans (List.map_id _)
    rw [if_neg (h c hc).1, id_eq]

theorem ne_of_isDigit {c : Char} (h : c.isDigit = true) : c ≠ ',' ∧ c ≠ '.' := by
  constructor <;> (rintro rfl; cases h)

/-- The plain spelling of an amount with two decimals has a point and no separators. -/
theorem plainAmount_grouped {sign : DecimalSign} {negative : Bool} {whole : List Char} {a b : Char}
    (hwhole : ∀ c ∈ whole, c.isDigit = true) (ha : a.isDigit = true) (hb : b.isDigit = true)
    {text : String} (h : GroupedAmount sign negative whole [a, b] text) :
    plainAmount text.toList = spelled negative whole [a, b] := by
  obtain ⟨grouped, hgrouped, htext⟩ := h
  have hthird : ((if negative then ['-'] else []) ++ grouped ++
      sign.sign :: [a, b]).reverse[2]? = some sign.sign := by simp
  have hminus := plain_of_ne sign (s := if negative then ['-'] else []) (by cases negative <;> simp)
  have hdigits := plain_of_ne sign fun c hc => ne_of_isDigit (hwhole c hc)
  have hcents := plain_of_ne sign (s := [a, b]) (by simp [ne_of_isDigit ha, ne_of_isDigit hb])
  have hsign : (sign.sign :: [a, b]).filter (· != sign.separator) = sign.sign :: [a, b] := by
    rw [List.filter_cons_of_pos (by cases sign <;> rfl), hcents.1]
  have hpoint : (if sign.sign = ',' then '.' else sign.sign) = '.' := by cases sign <;> rfl
  rw [plainAmount_of_third htext hthird, List.filter_append, List.filter_append, hminus.1, hgrouped,
    hsign, List.map_append, List.map_append, hminus.2, hdigits.2, List.map_cons, hpoint, hcents.2]
  rfl

/-- A text of an amount with two decimals, in either way to write numbers and grouped in any way, has
the amount of its plain spelling, or none if the plain spelling has none. If there is room for all
its digits, this is the number of hundredths that they stand for. So all texts of an amount have the
same amount. -/
theorem parseMonetary_grouped (sign : DecimalSign) (negative : Bool) {whole : List Char}
    {a b : Char} (hne : whole ≠ []) (hwhole : ∀ c ∈ whole, c.isDigit = true)
    (ha : a.isDigit = true) (hb : b.isDigit = true) {text : String}
    (h : GroupedAmount sign negative whole [a, b] text) :
    parseMonetary text.toList = read? (spelled negative whole [a, b]) ∧
    (valueOf (whole ++ [a, b]) ≤ maxUnits →
      parseMonetary text.toList = some (make negative (valueOf (whole ++ [a, b])) 2)) ∧
    ∀ (sign' : DecimalSign) (text' : String), GroupedAmount sign' negative whole [a, b] text' →
      parseMonetary text'.toList = parseMonetary text.toList := by
  have hread : ∀ {sign' : DecimalSign} {text' : String},
      GroupedAmount sign' negative whole [a, b] text' →
        parseMonetary text'.toList = read? (spelled negative whole [a, b]) := by
    intro sign' text' h'
    rw [parseMonetary, plainAmount_grouped hwhole ha hb h']
  refine ⟨hread h, fun hfits => ?_, fun sign' text' h' => (hread h').trans (hread h).symm⟩
  have hdigits : ∀ c ∈ whole ++ [a, b], c.isDigit = true := by
    simpa [or_imp, forall_and, ha, hb] using hwhole
  have hplaces : [a, b].length ≤ maxPlaces := show 2 ≤ maxPlaces by decide
  exact (hread h).trans (read?_spelled hdigits hne hfits hplaces)

/-- Two groupings of one amount, with a separator that is out of place and with blanks. -/
theorem parseMonetary_grouped_thousands :
    GroupedAmount .dot true "1234".toList ['5', '0'] "- 1,2,34 .50" ∧
      GroupedAmount .comma true "1234".toList ['5', '0'] "-1.234,50" ∧
      parseMonetary "- 1,2,34 .50".toList = some ⟨true, 123450, 2⟩ ∧
      parseMonetary "-1.234,50".toList = parseMonetary "- 1,2,34 .50".toList := by
  have hdot : GroupedAmount .dot true "1234".toList ['5', '0'] "- 1,2,34 .50" :=
    ⟨"1,2,34".toList, by decide, by decide +kernel⟩
  have hcomma : GroupedAmount .comma true "1234".toList ['5', '0'] "-1.234,50" :=
    ⟨"1.234".toList, by decide, by decide +kernel⟩
  have hwhole : "1234".toList.all Char.isDigit = true := rfl
  obtain ⟨-, hvalue, hsame⟩ :=
    parseMonetary_grouped .dot true (by decide) (List.all_eq_true.mp hwhole) rfl rfl hdot
  exact ⟨hdot, hcomma, hvalue (by decide +kernel), hsame .comma _ hcomma⟩

end Dossier
