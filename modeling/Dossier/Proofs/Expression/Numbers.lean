import Dossier.Proofs.Expression.Values
import Dossier.Region.Extract
import Mathlib.Data.List.Permutation

/-!
# The values of numbers

A placeholder for a number takes digits with spaces and separators between them, but nothing keeps
it from taking spaces and separators alone. So its value need not hold a digit, and an expression
with a number is found in texts in which there is none.

* `IsNumberText` : the texts that a number can be;
* `isNumberText_of_mem_lengths` : what a number takes is such a text;
* `number_value` : what is known of the value of a number.
-/

namespace Dossier

open Regex

/-- A text that a number can be: digits, spaces and separators, at least one of them, and perhaps a
decimal sign with digits behind it. -/
def IsNumberText (sign : DecimalSign) (text : List Char) : Prop :=
  ∃ body decimals, text = body ++ decimals ∧ body ≠ [] ∧
    (∀ c ∈ body, c.isDigit = true ∨ c = ' ' ∨ c = sign.separator) ∧
    (decimals = [] ∨ ∃ digits, decimals = sign.sign :: digits ∧ ∀ c ∈ digits, c.isDigit = true)

/-- The decimals of a number are its sign and digits, if there are any. -/
theorem take_of_mem_decimals {sign : DecimalSign} {rest : List Char} {n : Nat}
    (h : n ∈ sign.decimals rest) :
    rest.take n = [] ∨
      ∃ digits, rest.take n = sign.sign :: digits ∧ ∀ c ∈ digits, c.isDigit = true := by
  cases rest with
  | nil => exact .inl List.take_nil
  | cons c rest =>
    by_cases hc : c = sign.sign
    · rw [DecimalSign.decimals, if_pos hc, List.mem_append, List.mem_map, List.mem_singleton] at h
      rcases h with ⟨k, hk, rfl⟩ | rfl
      · refine .inr ⟨rest.take k, ?_, forall_mem_take (mem_longestFirst.mp hk).2⟩
        rw [Nat.add_comm, List.take_succ_cons, hc]
      · exact .inl List.take_zero
    · rw [DecimalSign.decimals, if_neg hc, List.mem_singleton] at h
      rw [h]
      exact .inl List.take_zero

theorem isNumberText_of_mem_lengths {sign : DecimalSign} {rest : List Char} {n : Nat}
    (h : n ∈ (Capture.number sign).lengths rest) : IsNumberText sign (rest.take n) := by
  obtain ⟨k, hk, hn⟩ := List.mem_flatMap.mp h
  obtain ⟨d, hd, rfl⟩ := List.mem_map.mp hn
  obtain ⟨hpos, hrun⟩ := mem_longestFirst.mp hk
  have hlength : (rest.take k).length = k :=
    List.length_take_of_le (Nat.le_trans hrun (runLength_le_length _ _))
  refine ⟨rest.take k, (rest.drop k).take d, List.take_add, ?_, fun c hc => ?_,
    take_of_mem_decimals hd⟩
  · exact List.ne_nil_of_length_pos (by omega)
  · simpa [or_assoc] using forall_mem_take hrun c hc

/-- An item that no digit is needed for. -/
def Item.isDigitless : Item → Bool
  | char c => !c.isDigit
  | placeholder _ .int => false
  | _ => true

theorem sampleOf_digitless {items : List Item} (h : ∀ item ∈ items, item.isDigitless = true) :
    ∀ c ∈ sampleOf items, c.isDigit = false := by
  intro c hc
  obtain ⟨item, hitem, hc⟩ := List.mem_flatMap.mp hc
  have hdigitless := h item hitem
  cases item with
  | char d =>
    obtain rfl := List.mem_singleton.mp hc
    simpa [Item.isDigitless] using hdigitless
  | blank | anyChar =>
    obtain rfl := List.mem_singleton.mp hc
    rfl
  | anyText => cases hc
  | placeholder name capture =>
    cases capture with
    | int => cases hdigitless
    | word =>
      obtain rfl := List.mem_singleton.mp hc
      rfl
    | number sign =>
      obtain rfl := List.mem_singleton.mp hc
      cases sign <;> rfl

/-- A text that gives a placeholder a value is of use to its region. -/
theorem hasValue_extract {c : Compiled} {text name value : String} {found : GroupMatch}
    (htext : text.isEmpty = false) (hfind : c.find text = some found) (hname : name ∈ c.groupNames)
    (hlookup : found.values.lookup name = some value) (hvalue : value.isEmpty = false) :
    (extract (.ok c) text).hasValue c.groupNames = true := by
  simp only [extract, htext, Bool.false_eq_true, if_false, hfind, RegionResult.hasValue,
    Bool.or_eq_true, List.any_eq_true]
  exact .inr ⟨name, hname, by simp [hlookup, hvalue]⟩

/-- The items of an amount behind its label. -/
def amountItems : List Item :=
  "Total:".toList.map .char ++ [.blank, .placeholder "x" (.number .dot)]

theorem readItems_amount : readItems "Total: <x:number>" = .ok amountItems := by rfl

theorem compile_amount :
    (Expression.simple "Total: <x:number>").compile 100000 =
      .ok ⟨.simple "Total: <x:number>", String.ofList (patternOf amountItems),
        treeOf amountItems⟩ :=
  compile_of_readItems readItems_amount (by cbv)

/-- The value of a number is a part of the text that a number can be. It is no more than that: an
expression in which nothing else stands for digits gives its region a value on a page that has no
digits at all. -/
theorem number_value {e : String} {limit : Nat} {c : Compiled} {items : List Item}
    (h : (Expression.simple e).compile limit = .ok c) (hitems : readItems e = .ok items)
    {name : String} {sign : DecimalSign} (hmem : .placeholder name (.number sign) ∈ items) :
    (∀ text found, c.find text = some found → ∃ value, found.values.lookup name = some value ∧
      value.toList <:+: text.toList ∧ IsNumberText sign value.toList) ∧
    ((∀ item ∈ items, item.isDigitless = true) →
      ∃ text found, c.find text = some found ∧ (∀ ch ∈ text.toList, ch.isDigit = false) ∧
        (extract (.ok c) text).hasValue c.groupNames = true) := by
  have hvalue : ∀ text found, c.find text = some found →
      ∃ value, found.values.lookup name = some value ∧ value.toList <:+: text.toList ∧
        IsNumberText sign value.toList := by
    intro text found hfind
    obtain ⟨start, n, hstart, hn, hvalue⟩ := find_taken h hitems hmem hfind
    refine ⟨_, hvalue, ?_, ?_⟩ <;> rw [String.toList_ofList]
    · exact (List.take_prefix n start).isInfix.trans hstart.isInfix
    · exact isNumberText_of_mem_lengths hn
  refine ⟨hvalue, fun hdigitless => ?_⟩
  obtain ⟨found, hfind⟩ := find_sampleOf h hitems
  obtain ⟨value, hlookup, hinfix, hnumber⟩ := hvalue _ found hfind
  have hne : value.toList ≠ [] := by
    obtain ⟨body, decimals, hsplit, hbody, -⟩ := hnumber
    simp [hsplit, hbody]
  have hempty : ∀ s : String, s.isEmpty = true → s.toList = [] := by
    intro s hs
    rw [String.isEmpty_iff.mp hs]
    rfl
  have hname : name ∈ c.groupNames := by
    rw [groupNames_of_readItems h hitems]
    exact List.mem_filterMap.mpr ⟨_, hmem, rfl⟩
  refine ⟨_, found, hfind, by simpa using sampleOf_digitless hdigitless,
    hasValue_extract ?_ hfind hname hlookup ?_⟩
  · refine Bool.eq_false_iff.mpr fun htext => hne ?_
    rwa [hempty _ htext, List.infix_nil] at hinfix
  · exact Bool.eq_false_iff.mpr fun hvalue => hne (hempty _ hvalue)

/-- The same for an amount behind its label. -/
theorem number_value_amount :
    ∃ c, (Expression.simple "Total: <x:number>").compile 100000 = .ok c ∧
      (∀ text found, c.find text = some found → ∃ value, found.values.lookup "x" = some value ∧
        value.toList <:+: text.toList ∧ IsNumberText .dot value.toList) ∧
      ∃ text found, c.find text = some found ∧ (∀ ch ∈ text.toList, ch.isDigit = false) ∧
        (extract (.ok c) text).hasValue c.groupNames = true := by
  have hmem : .placeholder "x" (.number .dot) ∈ amountItems := by decide
  obtain ⟨hvalue, hdigitless⟩ := number_value compile_amount readItems_amount hmem
  exact ⟨_, compile_amount, hvalue, hdigitless (by decide)⟩

/-- The second one of two spaces in front of a currency is taken for the amount. -/
theorem number_value_blank :
    ∃ c, (Expression.simple "Total: <x:number>").compile 100000 = .ok c ∧
      c.find "Total:  EUR" = some ⟨[("x", " ")], [(7, 8)]⟩ ∧
      (extract (.ok c) "Total:  EUR").hasValue c.groupNames = true := by
  refine ⟨_, compile_amount, ?_⟩
  have hfind := find_of_readItems compile_amount readItems_amount "Total:  EUR"
  have hfound : (findItems amountItems 0 "Total:  EUR".toList).map
      (groupMatch "Total:  EUR".toList) = some ⟨[("x", " ")], [(7, 8)]⟩ := by rfl
  rw [hfound] at hfind
  refine ⟨hfind, @hasValue_extract _ _ "x" " " _ (by decide) hfind ?_ rfl (by decide)⟩
  rw [groupNames_of_readItems compile_amount readItems_amount]
  exact List.mem_singleton_self _

end Dossier
