import Dossier.Proofs.Calendar.Spellings
import Dossier.Proofs.Fields.Conversions

/-!
# Values of date fields

A date field has any spelling of a date as its value. The texts that dates are written as are among
these, but a value may also have blanks, a sign that is not needed, or fewer digits.

* `validate_ok_iff`, `accepts_date_iff` : the texts that are dates;
* `exists_parseDate_iff` : the filter for dates writes the texts of dates and nothing else;
* `exists_isoString_iff_exact` : a spelling of a date is such a text just if it is exact;
* `Field.render_error_eq_none_iff` : the fields without an error;
* `validate_date_iff_spelled` : all of it;
* `validate_date_unpadded` : a spelling that is not written for any date.
-/

namespace Dossier

open Calendar (Spelling readDate? readDate?_eq_some_iff readDate?_spelling readDate?_iso)

/-! ## Texts -/

theorem validate_ok_iff {t : DataType} {value : String} :
    t.validate value = .ok () ↔ t.accepts value = true := by
  rw [DataType.validate]
  split <;> simp_all

/-- The texts that are dates are the spellings of dates. -/
theorem accepts_date_iff {value : String} :
    DataType.date.accepts value = true ↔
      ∃ (p : Spelling) (d : Date), p.Spells d ∧ p.text = value.toList := by
  show (readDate? "%Y-%m-%d".toList value.toList).isSome = true ↔ _
  rw [Option.isSome_iff_exists, exists_comm]
  exact exists_congr fun d => readDate?_eq_some_iff

/-- The filter for dates writes the texts of dates, and nothing else. -/
theorem exists_parseDate_iff {value : String} :
    (∃ format text, (Filter.parseDate format).apply text = .ok value) ↔
      ∃ d : Date, d.isoString = value := by
  constructor
  · rintro ⟨format, text, h⟩
    rw [Filter.apply] at h
    split at h
    · exact ⟨_, Except.ok.inj h⟩
    · cases h
  · rintro ⟨d, rfl⟩
    exact ⟨_, _, apply_parseDate_isoString d⟩

/-- The date of a document has the text of a date among its metadata, and any such text. -/
theorem exists_metadata_date_iff {value : String} :
    (∃ document : Document, document.metadata.lookup "document.date_created" = some value) ↔
      ∃ d : Date, d.isoString = value := by
  have hlookup (document : Document) : document.metadata.lookup "document.date_created" =
      document.dateCreated.map Date.isoString := lookup_metadata document "date_created"
  constructor
  · rintro ⟨document, h⟩
    rw [hlookup] at h
    obtain ⟨d, -, hd⟩ := Option.map_eq_some_iff.mp h
    exact ⟨d, hd⟩
  · rintro ⟨d, rfl⟩
    exact ⟨{ id := 1, dateCreated := some d }, hlookup _⟩

/-- A spelling of a date is written for a date just if it is exact. -/
theorem exists_isoString_iff_exact {p : Spelling} {d : Date} (h : p.Spells d) {value : String}
    (htext : p.text = value.toList) : (∃ e : Date, e.isoString = value) ↔ p.Exact := by
  rw [h.exact_iff]
  constructor
  · rintro ⟨e, rfl⟩
    rw [toList_isoString] at htext
    have hread := readDate?_spelling h
    rw [htext, readDate?_iso] at hread
    rw [htext, Option.some.inj hread]
  · intro hiso
    refine ⟨d, String.ext ?_⟩
    rw [toList_isoString, ← hiso, htext]

/-! ## Fields -/

/-- A field has no error just if it has a value that is of its type. -/
theorem Field.render_error_eq_none_iff {f : Field} {context : Template.Context}
    {catalog : Option Catalog} {renderer : Renderer} {result : FieldResult} {t : DataType}
    (htype : f.dataType? catalog = some t.name)
    (h : f.render context catalog renderer = some result) :
    result.error = none ↔ ∃ value, result.value = some value ∧ t.validate value = .ok () := by
  unfold Field.render at h
  split at h
  · cases h
  · cases hrender : renderer f.template context with
    | error fault =>
      simp only [hrender, Option.some.injEq] at h
      subst h
      simp
    | ok text =>
      simp only [hrender, Option.some.injEq] at h
      subst h
      cases hvalid : t.validate text <;> simp [typeFault?, htype, DataType.ofName?_name, hvalid]

/-- A text is a value of the type just if it is a spelling of a date: year, month and day with
hyphens, with any blanks in front of each. The year has four digits at most, or a sign and any
number of them, and month and day have two digits at most. What the filter for dates gives, and the
metadata of documents have, are the texts of dates. These are values of the type, and a spelling is
one of them just if it is exact. So a field for a date without an error has a spelling of a date as
its value, and with such a value it has no error, whatever renders its template. -/
theorem validate_date_iff_spelled (value : String) :
    (DataType.date.validate value = .ok () ↔
      ∃ (p : Spelling) (d : Date), p.Spells d ∧ p.text = value.toList) ∧
    (∀ (p : Spelling) (d : Date), p.Spells d → p.text = value.toList →
      ((∃ e : Date, e.isoString = value) ↔ p.Exact)) ∧
    ((∃ d : Date, d.isoString = value) → DataType.date.validate value = .ok ()) ∧
    ((∃ format text, (Filter.parseDate format).apply text = .ok value) ↔
      ∃ d : Date, d.isoString = value) ∧
    ((∃ document : Document, document.metadata.lookup "document.date_created" = some value) ↔
      ∃ d : Date, d.isoString = value) ∧
    ∀ (f : Field) (context : Template.Context) (catalog : Option Catalog) (renderer : Renderer)
      (result : FieldResult), f.dataType? catalog = some DataType.date.name →
        f.render context catalog renderer = some result →
        (result.error = none ↔ ∃ (text : String) (p : Spelling) (d : Date),
          result.value = some text ∧ p.Spells d ∧ p.text = text.toList) := by
  refine ⟨validate_ok_iff.trans accepts_date_iff,
    fun p d h htext => exists_isoString_iff_exact h htext, ?_, exists_parseDate_iff,
    exists_metadata_date_iff, ?_⟩
  · rintro ⟨d, rfl⟩
    exact validate_isoString d
  · intro f context catalog renderer result htype hresult
    simp only [Field.render_error_eq_none_iff htype hresult, validate_ok_iff, accepts_date_iff,
      exists_and_left]

/-- A year with a sign and a zero that are not needed, and blanks before numbers of one digit. -/
theorem validate_date_signed_year :
    let value := " +02024-1- 5"
    let p : Spelling :=
      { year := ⟨[' '], .plus, ['0', '2', '0', '2', '4']⟩, month := ⟨[], .none, ['1']⟩
        day := ⟨[' '], .none, ['5']⟩ }
    let d : Date := ⟨2024, 1, 5, by decide⟩
    let f : Field := { kind := .builtIn, name := "created", template := "day" }
    p.Spells d ∧ p.text = value.toList ∧ DataType.date.validate value = .ok () ∧
      (¬∃ e : Date, e.isoString = value) ∧
      ∃ result, f.render [] none (fun _ _ => .ok value) = some result ∧
        result.value = some value ∧ result.error = none := by
  intro value p d f
  have hyear : p.year.Proper 4 true :=
    ⟨List.all_eq_true.mp rfl, List.all_eq_true.mp rfl, List.cons_ne_nil _ _, nofun, nofun⟩
  have hmonth : p.month.Proper 2 false :=
    ⟨nofun, List.all_eq_true.mp rfl, List.cons_ne_nil _ _, fun _ => Nat.le_succ 1, fun _ => rfl⟩
  have hday : p.day.Proper 2 false :=
    ⟨List.all_eq_true.mp rfl, List.all_eq_true.mp rfl, List.cons_ne_nil _ _,
      fun _ => Nat.le_succ 1, fun _ => rfl⟩
  have hspells : p.Spells d := ⟨hyear, hmonth, hday, rfl, rfl, rfl⟩
  have htext : p.text = value.toList := by decide
  obtain ⟨hvalid, hexact, -, -, -, hfield⟩ := validate_date_iff_spelled value
  refine ⟨hspells, htext, hvalid.mpr ⟨p, d, hspells, htext⟩, fun hwritten => ?_, ?_⟩
  · -- The month has one digit, where an exact spelling has two.
    rcases ((hexact p d hspells htext).mp hwritten).month.digits with htwo | ⟨hmore, -⟩
    · cases htwo
    · exact absurd hmore (by decide)
  · have htype := f.dataType?_created rfl rfl none
    have hresult : f.render [] none (fun _ _ => .ok value) =
        some ⟨some "date", some value, typeFault? (some "date") value⟩ := by
      rw [Field.render, if_neg (by decide), htype]
      rfl
    exact ⟨_, hresult, rfl, (hfield f _ _ _ _ htype hresult).mpr ⟨value, p, d, rfl, hspells, htext⟩⟩

/-- A month and a day of one digit. -/
theorem validate_date_unpadded :
    DataType.date.validate "2024-1-5" = .ok () ∧ ∀ d : Date, d.isoString ≠ "2024-1-5" := by
  have hread : readDate? "%Y-%m-%d".toList "2024-1-5".toList = some ⟨2024, 1, 5, by decide⟩ := by
    decide +kernel
  refine ⟨validate_ok_iff.mpr ?_, fun d hd => ?_⟩
  · exact Option.isSome_iff_exists.mpr ⟨_, hread⟩
  · rw [← hd, toList_isoString, readDate?_iso] at hread
    rw [Option.some.inj hread] at hd
    revert hd
    decide +kernel

end Dossier
