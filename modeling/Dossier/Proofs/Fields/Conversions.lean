import Dossier.Proofs.Calendar.Iso
import Dossier.Proofs.Fields.Conventions
import Dossier.Proofs.Fields.Placeholders
import Dossier.Proofs.Number.Amount
import Dossier.Proofs.Template.Filtered
import Dossier.Proofs.Template.Members

/-!
# What filters give is of the type of the field

The filters for amounts and dates write them as the types of fields have them, so that a field
that is made with the filter for its type has a value of this type. What they have written they
leave as it is. The date of the document is written in the same way, but a captured value may stand
in its place if it is not set.

* `apply_parseMonetary`, `apply_parseDate` : what the filters give;
* `Field.Converts` : a field has a value of its type if it has one;
* `Field.converts_parseMonetary`, `Field.converts_parseDate` : the fields that are made with the
  filter for their type;
* `renderText_dateCreated`, `Field.converts_dateCreated_iff` : the field that has the date of the
  document;
* `filters_convert` : all of it;
* `dateCreated_captured` : a captured value that is no date in place of the date of the document.
-/

namespace Dossier

open Template

/-! ## Texts without blanks -/

section Blanks

variable {s : List Char} (h : ∀ c ∈ s, Text.isBlank c = false)

include h

theorem trim_eq_self : Text.trim s = s := by
  have hstart : Text.trimStart s = s :=
    List.dropWhile_eq_self_iff.mpr fun hne => by simp [h _ (List.getElem_mem hne)]
  have hend : s.rdropWhile Text.isBlank = s :=
    List.rdropWhile_eq_self_iff.mpr fun hne => by simp [h _ (List.getLast_mem hne)]
  rw [Text.trim, hstart]
  exact hend

theorem dropBlanks_eq_self : Text.dropBlanks s = s :=
  List.filter_eq_self.mpr fun c hc => by simp [h c hc]

end Blanks

theorem isBlank_of_mem_text {a : Amount} {c : Char} (h : c ∈ a.text) : Text.isBlank c = false := by
  rcases Amount.mem_text h with rfl | rfl | h
  · decide
  · decide
  · exact isBlank_of_isDigit h

theorem isBlank_of_mem_iso {d : Date} {c : Char} (h : c ∈ d.iso) : Text.isBlank c = false := by
  have hpadded : ∀ {width n}, c ∈ paddedDigits width n → Text.isBlank c = false :=
    fun h => isBlank_of_isDigit (isDigit_of_mem_paddedDigits h)
  have hminus : Text.isBlank '-' = false := by decide
  have hplus : Text.isBlank '+' = false := by decide
  unfold Date.iso Date.yearText at h
  grind

/-! ## Filters -/

/-- The plain spelling of an amount is its text. -/
theorem plainAmount_text (a : Amount) : plainAmount a.text = a.text := by
  have hcomma : ∀ c ∈ a.text, c ≠ ',' := by
    rintro c hc rfl
    rcases Amount.mem_text hc with h | h | h <;> cases h
  rw [plainAmount_of_not_mem (dropBlanks_eq_self fun _ => isBlank_of_mem_text)
    (.inl fun hmem => hcomma ',' hmem rfl)]
  refine (List.map_congr_left fun c hc => ?_).trans (List.map_id _)
  rw [if_neg (hcomma c hc), id_eq]

/-- The filter for amounts gives amounts, and leaves what it gives as it is. -/
theorem apply_parseMonetary {value s : String} (h : Filter.parseMonetary.apply value = .ok s) :
    DataType.monetary.validate s = .ok () ∧ Filter.parseMonetary.apply s = .ok s := by
  rw [Filter.apply] at h
  split at h
  · rename_i a hread
    obtain rfl := Except.ok.inj h
    have htext : Amount.read? a.text = some a := Amount.read?_text (Amount.proper_of_read? hread)
    have htrim : Text.trim a.text = a.text := trim_eq_self fun _ => isBlank_of_mem_text
    constructor
    · simp [DataType.validate, DataType.accepts, htrim, htext]
    · simp [Filter.apply, parseMonetary, plainAmount_text, htext]
  · cases h

theorem toList_isoString (d : Date) : d.isoString.toList = d.iso := String.toList_ofList

/-- The text of a date is one. -/
theorem validate_isoString (d : Date) : DataType.date.validate d.isoString = .ok () := by
  have haccepts : DataType.date.accepts d.isoString = true := by
    show (Calendar.readDate? "%Y-%m-%d".toList d.isoString.toList).isSome = true
    rw [toList_isoString, Calendar.readDate?_iso]
    rfl
  rw [DataType.validate, if_pos haccepts]

theorem apply_parseDate_isoString (d : Date) :
    (Filter.parseDate (some "%Y-%m-%d")).apply d.isoString = .ok d.isoString := by
  have htrim : Text.trim d.iso = d.iso := trim_eq_self fun _ => isBlank_of_mem_iso
  have hread : parseDate d.isoString.toList "%Y-%m-%d".toList = some d := by
    rw [parseDate, toList_isoString, htrim, Calendar.readDate?_iso]
  rw [Filter.apply, Option.getD_some, hread]

/-- The filter for dates gives dates, and leaves what it gives as it is if it reads it as such. -/
theorem apply_parseDate {format : Option String} {value s : String}
    (h : (Filter.parseDate format).apply value = .ok s) :
    DataType.date.validate s = .ok () ∧
      (Filter.parseDate (some "%Y-%m-%d")).apply s = .ok s := by
  rw [Filter.apply] at h
  split at h
  · rename_i d hread
    obtain rfl := Except.ok.inj h
    exact ⟨validate_isoString d, apply_parseDate_isoString d⟩
  · cases h

/-! ## Fields -/

/-- The field has a value of its type, if it has a value. -/
def Field.Converts (f : Field) (context : Context) (catalog : Option Catalog) : Prop :=
  ∀ result value, f.render context catalog = some result → result.value = some value →
    result.error = none

theorem DataType.ofName?_name (t : DataType) : ofName? t.name = some t := by cases t <;> rfl

/-- A field whose template only gives values of its type. -/
theorem Field.converts_of_validate {f : Field} {context : Context} {catalog : Option Catalog}
    {t : DataType} (htype : f.dataType? catalog = some t.name)
    (hvalid : ∀ value, renderText f.template context = .ok value → t.validate value = .ok ()) :
    f.Converts context catalog := by
  intro result value hresult hvalue
  unfold Field.render at hresult
  split at hresult
  · cases hresult
  · cases hrender : renderText f.template context with
    | error fault =>
      simp only [hrender, Option.some.injEq] at hresult
      subst hresult
      cases hvalue
    | ok text =>
      simp only [hrender, Option.some.injEq] at hresult
      subst hresult
      simp [typeFault?, htype, DataType.ofName?_name, hvalid text hrender]

theorem Field.Converts.validate {f : Field} {context : Context} {catalog : Option Catalog}
    (h : f.Converts context catalog) {t : DataType} (htype : f.dataType? catalog = some t.name)
    (htemplate : (Text.trim f.template.toList).isEmpty = false) {value : String}
    (hvalue : renderText f.template context = .ok value) : t.validate value = .ok () := by
  have hfault := h _ value (f.render_of_renderText htemplate hvalue catalog) rfl
  cases hvalid : t.validate value with
  | error fault => simp [typeFault?, htype, DataType.ofName?_name, hvalid] at hfault
  | ok _ => rfl

/-- A field for amounts that is made with the filter for amounts. -/
theorem Field.converts_parseMonetary {f : Field} {catalog : Option Catalog}
    (htype : f.dataType? catalog = some DataType.monetary.name)
    (hfilter : OutputsFilter f.template "parse_monetary") (context : Context) :
    f.Converts context catalog := by
  refine f.converts_of_validate htype fun value hvalue => ?_
  obtain ⟨v, args, w, happly, rfl⟩ := hfilter.exists_applyFilter hvalue
  obtain ⟨s, hs, rfl⟩ := exists_of_parseMonetary happly
  exact (apply_parseMonetary hs).1

/-- The template that outputs the date of the document renders to what is found under its name. -/
theorem renderText_dateCreated (d : Document) (retained : List (Option RegionResult))
    (value : String) :
    renderText "\x7b\x7b document.date_created \x7d\x7d" (fieldContext d retained) = .ok value ↔
      (fieldContext d retained).lookup "document.date_created" = some value := by
  have hkeys : ((fieldContext d retained).map Prod.fst).Nodup :=
    (increasing_entriesOf _).nodup_keys
  have hid : (fieldContext d retained).lookup ("document" ++ "." ++ "id") =
      some (natString d.id) := by
    rw [lookup_fieldContext]
    exact congrArg (Option.or · _) (lookup_metadata d "id")
  rw [renderText_eq_ok_iff read_dateCreated,
    Context.value_member (by decide) hkeys (List.mem_map_of_mem (mem_of_lookup hid))]
  have hname : "document" ++ "." ++ "date_created" = "document.date_created" := by decide
  rw [hname]
  cases (fieldContext d retained).lookup "document.date_created" <;> simp [Value.text]

section Created

variable {f : Field} (hkind : f.kind = .builtIn) (hname : f.name = "created")

include hkind hname

theorem Field.dataType?_created (catalog : Option Catalog) :
    f.dataType? catalog = some DataType.date.name := by
  rw [Field.dataType?, hkind, hname]
  rfl

/-- The field for the date that is made with the filter for dates. -/
theorem Field.converts_parseDate (hfilter : OutputsFilter f.template "parse_date")
    (context : Context) (catalog : Option Catalog) : f.Converts context catalog := by
  refine f.converts_of_validate (f.dataType?_created hkind hname catalog) fun value hvalue => ?_
  obtain ⟨v, args, w, happly, rfl⟩ := hfilter.exists_applyFilter hvalue
  obtain ⟨format, s, hs, rfl⟩ := exists_of_parseDate happly
  exact (apply_parseDate hs).1

/-- The field for the date that has the date of the document: it has a value of its type just if the
date is set, or what was captured last in its place is a date, if anything was. -/
theorem Field.converts_dateCreated_iff
    (htemplate : f.template = "\x7b\x7b document.date_created \x7d\x7d") (d : Document)
    (retained : List (Option RegionResult)) (catalog : Option Catalog) :
    f.Converts (fieldContext d retained) catalog ↔
      (d.dateCreated = none → ∀ value,
        (capturedIn retained).reverse.lookup "document.date_created" = some value →
          DataType.date.validate value = .ok ()) := by
  have htype := f.dataType?_created hkind hname catalog
  have hrender : ∀ value, renderText f.template (fieldContext d retained) = .ok value ↔
      (d.dateCreated.map Date.isoString).or
        ((capturedIn retained).reverse.lookup "document.date_created") = some value := by
    intro value
    rw [htemplate, renderText_dateCreated, lookup_fieldContext]
    exact iff_of_eq (congrArg (· = some value)
      (congrArg (Option.or · _) (lookup_metadata d "date_created")))
  constructor
  · intro h hunset value hvalue
    refine h.validate htype ?_ ((hrender value).mpr ?_)
    · rw [htemplate]
      decide +kernel
    · rw [hunset, Option.map_none, Option.none_or, hvalue]
  · intro h
    refine f.converts_of_validate htype fun value hvalue => ?_
    rcases Option.or_eq_some_iff.mp ((hrender value).mp hvalue) with hset | ⟨hunset, hcaptured⟩
    · obtain ⟨date, -, rfl⟩ := Option.map_eq_some_iff.mp hset
      exact validate_isoString date
    · exact h (Option.map_eq_none_iff.mp hunset) value hcaptured

end Created

/-- The filters for amounts and dates give values of these types and leave what they have given as
it is. So a field for amounts whose template outputs what the filter for amounts gives has a value
of its type if it has one, and so has the field for the date with the filter for dates. The field
for the date that has the date of the document has a date just if the date is set or what was
captured last under its name is one, if anything was; with simple expressions nothing is. The
templates that output a variable after a filter, with a string for its argument or none, are among
those that output what the filter gives. -/
theorem filters_convert (f : Field) (catalog : Option Catalog) (d : Document)
    (retained : List (Option RegionResult)) :
    (∀ value s, Filter.parseMonetary.apply value = .ok s →
      DataType.monetary.validate s = .ok () ∧ Filter.parseMonetary.apply s = .ok s) ∧
    (∀ format value s, (Filter.parseDate format).apply value = .ok s →
      DataType.date.validate s = .ok () ∧
        (Filter.parseDate (some "%Y-%m-%d")).apply s = .ok s) ∧
    (f.dataType? catalog = some DataType.monetary.name →
      OutputsFilter f.template "parse_monetary" → ∀ context, f.Converts context catalog) ∧
    (f.kind = .builtIn → f.name = "created" →
      (OutputsFilter f.template "parse_date" → ∀ context, f.Converts context catalog) ∧
      (f.template = "\x7b\x7b document.date_created \x7d\x7d" →
        (f.Converts (fieldContext d retained) catalog ↔
          (d.dateCreated = none → ∀ value,
            (capturedIn retained).reverse.lookup "document.date_created" = some value →
              DataType.date.validate value = .ok ())) ∧
        ∀ (p : Pattern) config, (∀ r ∈ p.regions, r.expression.kind = .simple) →
          f.Converts (fieldContext d (p.kept d config)) catalog)) ∧
    ∀ name filter, isName name = true → name ∉ keywords → isName filter = true →
      OutputsFilter (filteredOf name filter) filter ∧
        ∀ s, OutputsFilter (filteredOf name (filter ++ "(" ++ stringOf s ++ ")")) filter := by
  refine ⟨fun _ _ => apply_parseMonetary, fun _ _ _ => apply_parseDate,
    f.converts_parseMonetary, fun hkind hname => ⟨?_, fun htemplate => ⟨?_, ?_⟩⟩, ?_⟩
  · exact fun hfilter context => f.converts_parseDate hkind hname hfilter context catalog
  · exact f.converts_dateCreated_iff hkind hname htemplate d retained catalog
  · intro p config hsimple
    rw [f.converts_dateCreated_iff hkind hname htemplate]
    intro _ value hvalue
    have hcaptured := List.mem_reverse.mp (mem_of_lookup hvalue)
    exact absurd (List.mem_map_of_mem hcaptured)
      (metadataName_not_mem_captured hsimple d "date_created")
  · intro name filter hname hword hfilter
    exact ⟨⟨_, _, read_filtered hname hword hfilter⟩,
      fun s => ⟨_, _, read_filteredWith hname hword hfilter s⟩⟩

/-- An amount in an exponent, and a field for the date that has one before the year zero. -/
theorem filters_convert_before :
    Filter.parseMonetary.apply " -1,5E2" = .ok "-150" ∧
      Filter.parseMonetary.apply "-150" = .ok "-150" ∧
      let f : Field :=
        { kind := .builtIn, name := "created"
          template := filteredOf "day" ("parse_date" ++ "(" ++ stringOf "%d.%m.%Y" ++ ")") }
      renderText f.template [("day", "15.3.-44")] = .ok "-0044-03-15" ∧
        f.Converts [("day", "15.3.-44")] none := by
  have hname : isName "day" = true ∧ "day" ∉ keywords ∧ isName "parse_date" = true := by decide
  have hamount : Filter.parseMonetary.apply " -1,5E2" = .ok "-150" := by decide +kernel
  have hread := read_filteredWith hname.1 hname.2.1 hname.2.2 "%d.%m.%Y"
  have hvalue := renderText_of_text (c := [("day", "15.3.-44")]) hread
    (show "-0044-03-15" ≠ "" by decide) (by decide +kernel)
  have hconvert := filters_convert
    { kind := .builtIn, name := "created"
      template := filteredOf "day" ("parse_date" ++ "(" ++ stringOf "%d.%m.%Y" ++ ")") }
    none { id := 1 } []
  obtain ⟨hmonetary, -, -, hcreated, htemplate⟩ := hconvert
  have hfilter := (htemplate "day" "parse_date" hname.1 hname.2.1 hname.2.2).2 "%d.%m.%Y"
  exact ⟨hamount, (hmonetary _ _ hamount).2, hvalue, (hcreated rfl rfl).1 hfilter _⟩

/-- A captured value in place of the date of the document, which is not set. -/
theorem dateCreated_captured :
    let result := extract
      ((Expression.regex "(?P<document.date_created>ACME)").compile 1048576) "ACME"
    let f : Field :=
      { kind := .builtIn, name := "created"
        template := "\x7b\x7b document.date_created \x7d\x7d" }
    f.render (fieldContext { id := 1 } [some result]) none =
      some { dataType := some "date", value := some "ACME"
             error := some "invalid date: expected ISO YYYY-MM-DD" } := by
  -- The template is not read by evaluation, which would take too long.
  have hblank : (Text.trim "\x7b\x7b document.date_created \x7d\x7d".toList).isEmpty = false := by
    decide +kernel
  have hfault : typeFault? (some "date") "ACME" =
      some "invalid date: expected ISO YYYY-MM-DD" := by decide +kernel
  have hlookup : (fieldContext { id := 1 } [some (extract
      ((Expression.regex "(?P<document.date_created>ACME)").compile 1048576) "ACME")]).lookup
        "document.date_created" = some "ACME" := by decide +kernel
  intro result f
  have hvalue : renderText f.template (fieldContext { id := 1 } [some result]) = .ok "ACME" :=
    (renderText_dateCreated _ _ _).mpr hlookup
  rw [f.render_of_renderText hblank hvalue none, f.dataType?_created rfl rfl none]
  exact congrArg (fun error => some (FieldResult.mk (some "date") (some "ACME") error)) hfault

end Dossier
