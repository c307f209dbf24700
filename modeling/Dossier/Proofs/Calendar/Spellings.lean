import Dossier.Proofs.Calendar.Iso

/-!
# All spellings of dates

Under the format of its text a date is read from its spellings and from nothing else. Its text is
the spelling that has no blanks, two digits for month and day, at least four for the year with no
more zeros in front than it takes, and a sign only where there has to be one.

* `exists_spelling` : a date is read from its spellings only;
* `readDate?_eq_some_iff` : so the texts that it is read from are its spellings;
* `Spelling.Spells.unique` : a text is a spelling in one way only;
* `Spelling.Exact` : the spellings without anything that could be left out or filled up;
* `Spelling.Spells.exact_iff` : these are the texts of dates.
-/

namespace Dossier.Calendar

/-! ## What a date is read from -/

section Items

variable {fs fs' : Fields} {s rest : List Char}

theorem readItems_cons_eq_some {item : FormatItem} {items : List FormatItem}
    {r : Fields × List Char} :
    readItems fs (item :: items) s = some r ↔
      ∃ fs' rest, readItem fs item s = some (fs', rest) ∧ readItems fs' items rest = some r := by
  rw [readItems, Option.bind_eq_some_iff, Prod.exists]

theorem eq_of_readItem_literal {c : Char} (h : readItem fs (.literal [c]) s = some (fs', rest)) :
    fs' = fs ∧ s = c :: rest := by
  rw [readItem] at h
  split_ifs at h with hprefix
  obtain ⟨t, rfl⟩ := List.isPrefixOf_iff_prefix.mp hprefix
  obtain ⟨rfl, rfl⟩ := Prod.mk.inj (Option.some.inj h)
  exact ⟨rfl, rfl⟩

theorem eq_of_put? {field : Field} {v : Int} (hnew : fs.lookup field = none)
    (h : fs.put? field v = some fs') :
    (field.bounds.1 ≤ v ∧ v ≤ field.bounds.2) ∧ fs' = (field, v) :: fs := by
  simp only [Fields.put?, hnew] at h
  split_ifs at h with hbounds
  exact ⟨hbounds, (Option.some.inj h).symm⟩

end Items

/-- The date of year, month and day has them. -/
theorem eq_of_date? {fs : Fields} {year month day : Int} {d : Date}
    (hfs : fs = [(.day, day), (.month, month), (.year, year)]) (h : fs.date? = some d) :
    d.year = year ∧ d.month = month.toNat ∧ d.day = day.toNat := by
  have hyear : year? (fs.get? .year) (fs.get? .century) (fs.get? .yearOfCentury) =
      some (some year) := hfs ▸ rfl
  have hisoYear : year? (fs.get? .isoYear) (fs.get? .isoCentury) (fs.get? .isoYearOfCentury) =
      some none := hfs ▸ rfl
  have hdetermined : fs.determined? (some year) none = Date.of? year month.toNat day.toNat :=
    hfs ▸ rfl
  rw [Fields.date?, hyear, hisoYear] at h
  simp only [hdetermined, Date.of?] at h
  split_ifs at h
  dsimp only at h
  split_ifs at h
  obtain rfl := Option.some.inj h
  exact ⟨rfl, rfl, rfl⟩

/-- A date is read from nothing but a spelling of it. -/
theorem exists_spelling {s : List Char} {d : Date}
    (h : readDate? "%Y-%m-%d".toList s = some d) : ∃ p : Spelling, p.Spells d ∧ p.text = s := by
  rw [readDate?, readFormat_iso, Option.bind_some] at h
  obtain ⟨⟨fs, rest⟩, hitems, hdate⟩ := Option.bind_eq_some_iff.mp h
  dsimp only at hdate
  split_ifs at hdate with hrest
  obtain rfl := List.isEmpty_iff.mp hrest
  simp only [List.cons_append, List.nil_append, readItems_cons_eq_some] at hitems
  obtain ⟨_, _, hreadYear, _, _, hfirst, _, _, hreadMonth, _, _, hsecond, _, _, hreadDay, hdone⟩ :=
    hitems
  obtain ⟨rfl, rfl⟩ := eq_of_readItem_literal hfirst
  obtain ⟨rfl, rfl⟩ := eq_of_readItem_literal hsecond
  obtain ⟨rfl, rfl⟩ := Prod.mk.inj (Option.some.inj hdone)
  obtain ⟨year, hyear, rfl, hput⟩ := exists_numeral (by decide) hreadYear
  obtain ⟨-, rfl⟩ := eq_of_put? rfl hput
  obtain ⟨month, hmonth, rfl, hput⟩ := exists_numeral (by decide) hreadMonth
  obtain ⟨hmonths, rfl⟩ := eq_of_put? rfl hput
  obtain ⟨day, hday, rfl, hput⟩ := exists_numeral (by decide) hreadDay
  obtain ⟨hdays, rfl⟩ := eq_of_put? rfl hput
  obtain ⟨hyearValue, hmonthValue, hdayValue⟩ := eq_of_date? rfl hdate
  have hmonthPos : 1 ≤ month.value := hmonths.1
  have hdayPos : 1 ≤ day.value := hdays.1
  refine ⟨⟨year, month, day⟩, ⟨hyear, hmonth, hday, hyearValue.symm, ?_, ?_⟩, ?_⟩
  · rw [hmonthValue, Int.toNat_of_nonneg (by omega)]
  · rw [hdayValue, Int.toNat_of_nonneg (by omega)]
  · rw [Spelling.text, List.append_nil]

/-- The texts that a date is read from are its spellings. -/
theorem readDate?_eq_some_iff {s : List Char} {d : Date} :
    readDate? "%Y-%m-%d".toList s = some d ↔ ∃ p : Spelling, p.Spells d ∧ p.text = s := by
  constructor
  · exact exists_spelling
  · rintro ⟨p, h, rfl⟩
    exact readDate?_spelling h

namespace Spelling

variable {p q : Spelling} {d e : Date}

/-- A text is a spelling in one way only. -/
theorem Spells.unique (hp : p.Spells d) (hq : q.Spells e) (h : p.text = q.text) : p = q := by
  have hhyphen {s : List Char} : ∀ c ∈ ('-' :: s).head?, c.isDigit = false :=
    not_isDigit_head rfl s
  have hend : ∀ c ∈ ([] : List Char).head?, c.isDigit = false := nofun
  obtain ⟨hyear, h⟩ := hp.year.unique hq.year hhyphen hhyphen h
  obtain ⟨hmonth, h⟩ := hp.month.unique hq.month hhyphen hhyphen (List.cons.inj h).2
  have hlast := (List.cons.inj h).2
  rw [← List.append_nil p.day.text, ← List.append_nil q.day.text] at hlast
  obtain ⟨hday, -⟩ := hp.day.unique hq.day hend hend hlast
  cases p
  cases q
  cases hyear
  cases hmonth
  cases hday
  rfl

/-- The spelling has nothing that could be left out, and no more zeros in front of a number than it
takes. -/
structure Exact (p : Spelling) : Prop where
  year : p.year.Exact 4
  month : p.month.Exact 2
  day : p.day.Exact 2

/-- Of the spellings of a date its text is the exact one. -/
theorem Spells.exact_iff (h : p.Spells d) : p.Exact ↔ p.text = d.iso := by
  have hparts : p.Exact ↔ p = ofDate d := by
    rw [ofDate, ← h.year_value, ← h.month_value, ← h.day_value]
    constructor
    · rintro ⟨hyear, hmonth, hday⟩
      rw [← (h.year.exact_iff (by decide)).mp hyear, ← (h.month.exact_iff (by decide)).mp hmonth,
        ← (h.day.exact_iff (by decide)).mp hday]
    · intro heq
      exact ⟨(h.year.exact_iff (by decide)).mpr (congrArg Spelling.year heq),
        (h.month.exact_iff (by decide)).mpr (congrArg Spelling.month heq),
        (h.day.exact_iff (by decide)).mpr (congrArg Spelling.day heq)⟩
  rw [hparts, ← text_ofDate]
  exact ⟨congrArg text, h.unique (spells_ofDate d)⟩

end Spelling

end Dossier.Calendar
