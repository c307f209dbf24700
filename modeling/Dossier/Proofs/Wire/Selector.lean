import Dossier.Proofs.Entries
import Dossier.Proofs.Wire.Written
import Dossier.Wire.Pattern

/-!
# Selectors in JSON texts

A page number is written as an integer with a sign. So only the numbers of the lower half of those
of 64 bits are read again; the others are written as negative integers, of which -1 stands for the
last page and the rest for nothing.

* `PageSelector.Stands` : the JSON values that stand for a selector;
* `PageSelector.ofJson_eq_ok` : these are the values that it is decoded from;
* `PageSelector.stands_toJson`, `PageSelector.ofJson_toJson_upper` : what a selector is written as,
  for page numbers of the lower half and of the upper half;
* `PageSelector.reads_back_iff` : the selectors that are read from their texts, and the texts that
  each is read from;
* `PageSelector.upper_index_lost` : page numbers that are not read again, or as something else.
-/

namespace Dossier.PageSelector

/-- The JSON values that stand for a selector: a number with a sign, or a name, which may be the only
key of an object too. -/
inductive Stands : PageSelector → Json → Prop
  | last : Stands lastPage (.int (-1))
  | index {i : Nat} (h : i < twoTo 63) : Stands (exactPage i) (.int i)
  | name {s : String} {selector : PageSelector} (h : (s, selector) ∈ names) :
    Stands selector (.str s)
  | key {s : String} {selector : PageSelector} (h : (s, selector) ∈ names) :
    Stands selector (.obj [(s, .null)])

theorem nodup_names : (names.map Prod.fst).Nodup := by decide

/-! ## Decoding -/

theorem ofJson_int (n : Int) : ofJson (.int n) =
    if n = -1 then .ok lastPage
    else if 0 ≤ n ∧ n < twoTo 63 then .ok (exactPage n.toNat)
    else .error .invalidValue := rfl

theorem ofJson_of_ne_int {j : Json} (h : ∀ n, j ≠ .int n) : ofJson j = j.asName names := by
  cases j with
  | int n => exact absurd rfl (h n)
  | null | bool | float | str | arr | obj => rfl

/-- A selector is decoded from the values that stand for it, and from no other ones. -/
theorem ofJson_eq_ok {j : Json} {selector : PageSelector} :
    ofJson j = .ok selector ↔ selector.Stands j := by
  constructor
  · intro h
    by_cases hint : ∃ n, j = .int n
    · obtain ⟨n, rfl⟩ := hint
      rw [ofJson_int] at h
      split_ifs at h with hlast hindex
      · cases h
        exact hlast ▸ .last
      · cases h
        have hn : (n.toNat : Int) = n := Int.toNat_of_nonneg hindex.1
        have hstands : Stands (exactPage n.toNat) (.int (n.toNat : Int)) := .index (by omega)
        rwa [hn] at hstands
    · rw [ofJson_of_ne_int (not_exists.mp hint)] at h
      obtain ⟨s, hlookup, rfl | rfl⟩ := Json.asName_eq_ok.mp h
      · exact .name (mem_of_lookup hlookup)
      · exact .key (mem_of_lookup hlookup)
  · rintro (_ | hindex | hname | hname)
    · rfl
    · rw [ofJson_int, if_neg (by omega), if_pos (by omega), Int.toNat_natCast]
    · exact Json.asName_eq_ok.mpr ⟨_, lookup_of_mem nodup_names hname, .inl rfl⟩
    · exact Json.asName_eq_ok.mpr ⟨_, lookup_of_mem nodup_names hname, .inr rfl⟩

/-! ## Texts -/

variable {selector : PageSelector}

/-- The integer that a page number of 64 bits is written as has 64 bits with its sign. -/
theorem signed64_bounds {i : Nat} (h : i < twoTo 64) :
    -(twoTo 63 : Int) ≤ signed64 i ∧ signed64 i < twoTo 63 := by
  have htwo : twoTo 64 = 2 * twoTo 63 := by decide
  unfold signed64
  split <;> omega

theorem within_toJson (h : ∀ i, selector = exactPage i → i < twoTo 64) :
    selector.toJson.Within Json.ReadsBack := by
  cases selector with
  | exactPage i =>
    have htwo : twoTo 63 < twoTo 64 := by decide
    have := signed64_bounds (h i rfl)
    exact ⟨this.1, by omega⟩
  | firstPage | lastPage | firstMatch | lastMatch => trivial

theorem depth_toJson (selector : PageSelector) : selector.toJson.depth < Json.nestingLimit := by
  cases selector <;> exact Nat.succ_pos _

/-- A selector stands for itself as it is written, unless it is a page number of the upper half. -/
theorem stands_toJson (h : ∀ i, selector = exactPage i → i < twoTo 63) :
    selector.Stands selector.toJson := by
  cases selector with
  | exactPage i =>
    rw [toJson, signed64, if_pos (h i rfl)]
    exact .index (h i rfl)
  | firstPage | lastPage | firstMatch | lastMatch => exact .name (by decide)

/-- A page number of the upper half is written as a negative integer. -/
theorem ofJson_toJson_upper {i : Nat} (hlow : twoTo 63 ≤ i) (h : i < twoTo 64) :
    ofJson (exactPage i).toJson =
      if i = twoTo 64 - 1 then .ok lastPage else .error .invalidValue := by
  have htwo : twoTo 64 = 2 * twoTo 63 := by decide
  rw [toJson, signed64, if_neg (by omega), ofJson_int]
  by_cases hlast : i = twoTo 64 - 1
  · rw [if_pos (by omega), if_pos hlast]
  · rw [if_neg (by omega), if_neg (by omega), if_neg hlast]

/-- A selector with a page number of 64 bits, if it has any, is read from its text just if the number
is in the lower half. Of the numbers in the upper half the last one is read as the last page, and
the others are not read. A text is read as the selector just if its value stands for it. -/
theorem reads_back_iff (h : ∀ i, selector = exactPage i → i < twoTo 64) :
    (readAs ofJson selector.toJson.compact = .ok selector ↔
      ∀ i, selector = exactPage i → i < twoTo 63) ∧
    (∀ i, selector = exactPage i → twoTo 63 ≤ i →
      readAs ofJson selector.toJson.compact =
        if i = twoTo 64 - 1 then .ok lastPage else .error (.mistyped .invalidValue)) ∧
    ∀ t, readAs ofJson t = .ok selector ↔ ∃ j, Json.read? t = some j ∧ selector.Stands j := by
  have hupper : ∀ i, selector = exactPage i → twoTo 63 ≤ i →
      readAs ofJson selector.toJson.compact =
        if i = twoTo 64 - 1 then .ok lastPage else .error (.mistyped .invalidValue) := by
    rintro i rfl hlow
    rw [readAs_compact (within_toJson h) (depth_toJson _), ofJson_toJson_upper hlow (h i rfl)]
    split <;> rfl
  refine ⟨⟨fun hread i hi => ?_, fun hlower => ?_⟩, hupper, fun t => ⟨fun hread => ?_, ?_⟩⟩
  · refine Nat.lt_of_not_le fun hlow => ?_
    rw [hupper i hi hlow, hi] at hread
    split at hread <;> cases hread
  · rw [readAs_compact (within_toJson h) (depth_toJson _),
      ofJson_eq_ok.mpr (stands_toJson hlower)]
    rfl
  · obtain ⟨j, hj, hdecode⟩ := readAs_ok hread
    exact ⟨j, hj, ofJson_eq_ok.mp hdecode⟩
  · rintro ⟨j, hj, hstands⟩
    exact readAs_of_read? hj (ofJson_eq_ok.mpr hstands)

/-- The largest page number that is read from its text. -/
theorem reads_back_largest :
    (∀ i, exactPage 9223372036854775807 = exactPage i → i < twoTo 64) ∧
      (exactPage 9223372036854775807).toJson.compact = "9223372036854775807" ∧
      readAs ofJson "9223372036854775807" = .ok (exactPage 9223372036854775807) := by
  have hnumber : ∀ i, exactPage 9223372036854775807 = exactPage i → i = 9223372036854775807 :=
    fun i hi => (exactPage.inj hi).symm
  have hbound : ∀ i, exactPage 9223372036854775807 = exactPage i → i < twoTo 64 :=
    fun i hi => hnumber i hi ▸ by decide
  have hlower : ∀ i, exactPage 9223372036854775807 = exactPage i → i < twoTo 63 :=
    fun i hi => hnumber i hi ▸ by decide
  have htext : (exactPage 9223372036854775807).toJson.compact = "9223372036854775807" := by
    decide +kernel
  refine ⟨hbound, htext, ?_⟩
  rw [← htext]
  exact (reads_back_iff hbound).1.mpr hlower

/-- The page number after that stands for no selector, and its selector is not read from its text.
The last page number of 64 bits is read from its text as the last page. -/
theorem upper_index_lost :
    readAs ofJson "9223372036854775808" = .error (.mistyped .invalidValue) ∧
      (exactPage 9223372036854775808).toJson.compact = "-9223372036854775808" ∧
      readAs ofJson "-9223372036854775808" = .error (.mistyped .invalidValue) ∧
      (exactPage 18446744073709551615).toJson.compact = "-1" ∧
      readAs ofJson "-1" = .ok lastPage := by
  have hread : ∀ n, -(twoTo 63 : Int) ≤ n → n < twoTo 64 →
      readAs ofJson (Json.int n).compact = (ofJson (.int n)).mapError .mistyped :=
    fun n hlow hhigh => readAs_compact ⟨hlow, hhigh⟩ (Nat.succ_pos _)
  have hnext : (Json.int 9223372036854775808).compact = "9223372036854775808" := by decide +kernel
  have hupper : (exactPage 9223372036854775808).toJson.compact = "-9223372036854775808" := by
    decide +kernel
  have hlargest : (exactPage 18446744073709551615).toJson.compact = "-1" := by decide +kernel
  refine ⟨?_, hupper, ?_, hlargest, ?_⟩
  · rw [← hnext, hread _ (by decide) (by decide)]
    rfl
  · rw [← hupper]
    exact (hread _ (by decide) (by decide)).trans rfl
  · rw [← hlargest]
    exact (hread _ (by decide) (by decide)).trans rfl

end Dossier.PageSelector
