import Dossier.Proofs.Calendar.Numerals
import Dossier.Wire.Document

/-!
# Texts of dates

A date is read from its text with year, month and day, and from other spellings of them.

* `Spelling.Spells` : the ways to write a date, of which `Spelling.ofDate` is that of its text;
* `date?_fieldsOf` : the date of its own year, month and day;
* `readItems_spelling`, `readItems_iso` : the fields of a date in front of a text;
* `readDate?_spelling` : a date is read from its spellings;
* `readJsonDate?_iso`, `readDate?_iso` : a date is read from its text.
-/

namespace Dossier

open Calendar

/-! ## Bounds of dates -/

theorem daysInMonth_le (year : Int) (month : Nat) : daysInMonth year month ≤ 31 := by
  unfold daysInMonth
  split
  · split <;> decide
  all_goals decide

namespace Date

variable (d : Date)

theorem bounds : minYear ≤ d.year ∧ d.year ≤ maxYear ∧ 1 ≤ d.month ∧ d.month ≤ 12 ∧ 1 ≤ d.day ∧
    d.day ≤ 31 := by
  obtain ⟨h1, h2, h3, h4, h5, h6⟩ := of_decide_eq_true d.exists_
  exact ⟨h1, h2, h3, h4, h5, Nat.le_trans h6 (daysInMonth_le _ _)⟩

theorem of?_self : Date.of? d.year d.month d.day = some d := by
  rw [Date.of?, dif_pos d.exists_]

end Date

namespace Calendar

/-! ## Spellings -/

/-- A date as it is written: year, month and day with hyphens. -/
structure Spelling where
  year : Numeral
  month : Numeral
  day : Numeral
deriving DecidableEq

namespace Spelling

def text (p : Spelling) : List Char :=
  p.year.text ++ '-' :: (p.month.text ++ '-' :: p.day.text)

/-- A way to write a date. Only the year may have a sign; without one it has four digits at most.
Month and day have two at most. -/
structure Spells (p : Spelling) (d : Date) : Prop where
  year : p.year.Proper 4 true
  month : p.month.Proper 2 false
  day : p.day.Proper 2 false
  year_value : p.year.value = d.year
  month_value : p.month.value = d.month
  day_value : p.day.value = d.day

/-- The way that a date is written in. -/
def ofDate (d : Date) : Spelling where
  year := .written 4 d.year
  month := .written 2 d.month
  day := .written 2 d.day

theorem text_ofDate (d : Date) : (ofDate d).text = d.iso := by
  obtain ⟨-, -, -, hmonth, -, hday⟩ := d.bounds
  rw [text, ofDate, Numeral.text_written_year, Numeral.text_written (by omega),
    Numeral.text_written (by omega)]
  rfl

theorem spells_ofDate (d : Date) : (ofDate d).Spells d := by
  obtain ⟨-, -, -, hmonth, -, hday⟩ := d.bounds
  exact ⟨Numeral.proper_written (by decide) nofun,
    Numeral.proper_written (by decide) fun _ => by omega,
    Numeral.proper_written (by decide) fun _ => by omega, Numeral.value_written _ _,
    Numeral.value_written _ _, Numeral.value_written _ _⟩

end Spelling

/-! ## Whole dates -/

/-- The fields of a date that is written out. -/
def fieldsOf (d : Date) : Fields :=
  [(.day, (d.day : Int)), (.month, (d.month : Int)), (.year, d.year)]

/-- Year, month and day of a date determine it, and nothing else was read. -/
theorem date?_fieldsOf (d : Date) : (fieldsOf d).date? = some d := by
  have hdetermined : (fieldsOf d).determined? (some d.year) none = some d := by
    show Date.of? d.year (d.month : Int).toNat (d.day : Int).toNat = some d
    rw [Int.toNat_natCast, Int.toNat_natCast, d.of?_self]
  have hday : (fieldsOf d).agreesOnDay d = true := by
    show (some d.year == some d.year && true && true && some (d.month : Int) == some (d.month : Int)
      && some (d.day : Int) == some (d.day : Int)) = true
    simp
  have hweek : (fieldsOf d).agreesOnWeek d = true := rfl
  have hplace : (fieldsOf d).agreesOnPlace d = true := rfl
  have hyear : year? ((fieldsOf d).get? .year) ((fieldsOf d).get? .century)
      ((fieldsOf d).get? .yearOfCentury) = some (some d.year) := rfl
  have hisoYear : year? ((fieldsOf d).get? .isoYear) ((fieldsOf d).get? .isoCentury)
      ((fieldsOf d).get? .isoYearOfCentury) = some none := rfl
  rw [Fields.date?, hyear, hisoYear]
  simp only [hdetermined, hday, hweek, hplace, Bool.and_self, if_true]

theorem readItems_append (fs : Fields) (items items' : List FormatItem) (s : List Char) :
    readItems fs (items ++ items') s =
      (readItems fs items s).bind fun (fs, rest) => readItems fs items' rest := by
  induction items generalizing fs s with
  | nil => rfl
  | cons item items ih =>
    rw [List.cons_append, readItems, readItems, Option.bind_assoc]
    exact congrArg _ (funext fun r => ih r.1 r.2)

/-- Year, month and day are read from a spelling of a date in front of a text that starts with no
digit, with any items between them that pass over a hyphen. -/
theorem readItems_spelling {p : Spelling} {d : Date} (h : p.Spells d) (hyphen : List FormatItem)
    (hhyphen : ∀ fs s, readItems fs hyphen ('-' :: s) = some (fs, s)) {rest : List Char}
    (hrest : ∀ c ∈ rest.head?, c.isDigit = false) :
    readItems [] (yearItem :: (hyphen ++ monthItem :: (hyphen ++ [dayItem]))) (p.text ++ rest) =
      some (fieldsOf d, rest) := by
  obtain ⟨hmin, hmax, hmonth, hmonth', hday, hday'⟩ := d.bounds
  simp only [minYear, maxYear] at hmin hmax
  have hstop : ∀ s, ∀ c ∈ ('-' :: s).head?, c.isDigit = false := not_isDigit_head rfl
  have hsmall (q : Numeral) (hq : q.value.natAbs ≤ 262143) : valueOf q.digits < twoTo 63 := by
    have hbound : (262143 : Nat) < twoTo 63 := by decide
    rw [← q.natAbs_value]
    omega
  have hputYear : Fields.put? [] .year d.year = some [(.year, d.year)] := by
    exact if_pos (by omega)
  have hputMonth : Fields.put? [(.year, d.year)] .month d.month =
      some [(.month, (d.month : Int)), (.year, d.year)] := by
    exact if_pos (by omega)
  have hputDay : Fields.put? [(.month, (d.month : Int)), (.year, d.year)] .day d.day =
      some (fieldsOf d) := by
    exact if_pos (by omega)
  have hyearText := readItem_numeral (show Field.year ≠ .timestamp by decide) [] h.year
    (hsmall _ (by rw [h.year_value]; omega)) (hstop (p.month.text ++ '-' :: (p.day.text ++ rest)))
  rw [h.year_value, hputYear] at hyearText
  have hmonthText := readItem_numeral (show Field.month ≠ .timestamp by decide)
    [(.year, d.year)] h.month (hsmall _ (by rw [h.month_value]; omega))
    (hstop (p.day.text ++ rest))
  rw [h.month_value, hputMonth] at hmonthText
  have hdayText := readItem_numeral (show Field.day ≠ .timestamp by decide)
    [(.month, (d.month : Int)), (.year, d.year)] h.day
    (hsmall _ (by rw [h.day_value]; omega)) hrest
  rw [h.day_value, hputDay] at hdayText
  simp only [Spelling.text, List.append_assoc, List.cons_append, readItems, readItems_append,
    yearItem, hyearText, Option.map_some, Option.bind_some, hhyphen, monthItem, hmonthText, dayItem,
    hdayText]

/-- The items of a date are read from its text in front of a text that starts with no digit. -/
theorem readItems_iso (d : Date) {rest : List Char} (hrest : ∀ c ∈ rest.head?, c.isDigit = false) :
    readItems [] jsonDateItems (d.iso ++ rest) = some (fieldsOf d, rest) := by
  rw [← Spelling.text_ofDate]
  refine readItems_spelling (Spelling.spells_ofDate d) [.blanks, .literal ['-']]
    (fun fs s => ?_) hrest
  simp only [readItems, readItem, trimStart_cons (show Text.isBlank '-' = false by decide),
    Option.bind_some]
  rfl

theorem readJsonDate?_iso (d : Date) : readJsonDate? d.iso = some d := by
  have hread := readItems_iso d (show ∀ c ∈ ([] : List Char).head?, c.isDigit = false by simp)
  rw [List.append_nil] at hread
  rw [readJsonDate?, readItems_append, hread]
  exact date?_fieldsOf d

/-- The items of the format of the texts of dates. -/
theorem readFormat_iso : readFormat "%Y-%m-%d".toList =
    some (yearItem :: ([.literal ['-']] ++ monthItem :: ([.literal ['-']] ++ [dayItem]))) := by
  decide +kernel

/-- A date is read from its spellings under the format of its text. -/
theorem readDate?_spelling {p : Spelling} {d : Date} (h : p.Spells d) :
    readDate? "%Y-%m-%d".toList p.text = some d := by
  have hread := readItems_spelling h [.literal ['-']] (fun _ _ => rfl)
    (show ∀ c ∈ ([] : List Char).head?, c.isDigit = false by simp)
  rw [List.append_nil] at hread
  rw [readDate?, readFormat_iso, Option.bind_some, hread]
  exact date?_fieldsOf d

theorem readDate?_iso (d : Date) : readDate? "%Y-%m-%d".toList d.iso = some d := by
  rw [← Spelling.text_ofDate]
  exact readDate?_spelling (Spelling.spells_ofDate d)

end Calendar

end Dossier
