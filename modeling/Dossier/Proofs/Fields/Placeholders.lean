import Dossier.Proofs.Check.Known
import Dossier.Proofs.Fields.Metadata
import Dossier.Proofs.Template.Variable

/-!
# Captured values in field templates

A field that only outputs the name of a placeholder has the captured value, that of the last region
which captured one. There are two exceptions, since names with a point are members of what stands in
front of it: `document` is the metadata, and a name is an object if a regular expression captures a
member of it.

* `heldIn` : the values under a name in kept results;
* `lookup_fieldContext_placeholder` : the last one is the value of the name;
* `Field.render_output` : a field that only outputs a variable has its value;
* `field_of_placeholder` : the field of a captured value;
* `field_of_placeholder_shadowed` : the two exceptions.
-/

namespace Dossier

open Regex Template

/-- The values under a name in kept results, in their order. -/
def heldIn (retained : List (Option RegionResult)) (name : String) : List String :=
  retained.filterMap fun r => (r.bind RegionResult.values).bind (·.lookup name)

/-! ## Names of captured values -/

/-- Of the captured values under a name the last one is found first. -/
theorem lookup_reverse_capturedIn {retained : List (Option RegionResult)}
    (hkeys : ∀ result, some result ∈ retained → ∀ values, result.values = some values →
      (values.map Prod.fst).Nodup) (name : String) :
    (capturedIn retained).reverse.lookup name = (heldIn retained name).getLast? := by
  induction retained with
  | nil => rfl
  | cons r retained ih =>
    have hrest := ih fun result hresult => hkeys result (List.mem_cons_of_mem _ hresult)
    have hfirst : ((r.bind RegionResult.values).getD []).reverse.lookup name =
        (r.bind RegionResult.values).bind (·.lookup name) := by
      cases hvalues : r.bind RegionResult.values with
      | none => rfl
      | some values =>
        obtain ⟨result, rfl, hvalues⟩ := Option.bind_eq_some_iff.mp hvalues
        exact lookup_reverse (hkeys result List.mem_cons_self values hvalues) name
    have hcaptured : (capturedIn (r :: retained)).reverse.lookup name =
        ((capturedIn retained).reverse.lookup name).or
          ((r.bind RegionResult.values).bind (·.lookup name)) := by
      rw [← hfirst, ← List.lookup_append, ← List.reverse_append]
      rfl
    rw [hcaptured, hrest, heldIn, heldIn, List.filterMap_cons]
    cases (r.bind RegionResult.values).bind (·.lookup name) with
    | none => rw [Option.or_none]
    | some value =>
      rw [List.getLast?_cons]
      cases (List.filterMap _ retained).getLast? <;> rfl

/-- The value of a placeholder in templates is the last one that was captured. -/
theorem lookup_fieldContext_placeholder {p : Pattern} {config : Config} {name : String}
    (hname : isPlaceholderName name.toList = true) (d : Document) :
    (fieldContext d (p.kept d config)).lookup name = (heldIn (p.kept d config) name).getLast? := by
  have hmetadata : d.metadata.lookup name = none := by
    refine lookup_eq_none_of_not_mem fun hmem => ?_
    obtain ⟨entry, hentry, rfl⟩ := List.mem_map.mp hmem
    obtain ⟨member, hmember⟩ := exists_of_mem_metadata hentry
    exact metadataName_ne_placeholderName hname member hmember.symm
  rw [lookup_fieldContext, hmetadata, Option.none_or]
  refine lookup_reverse_capturedIn (fun result hresult values hvalues => ?_) name
  obtain ⟨r, -, hkept⟩ := List.mem_map.mp hresult
  exact (r.results_increasing (List.mem_of_find?_eq_some hkept) hvalues).nodup_keys

/-- The names for templates are those of metadata and of captured values. -/
theorem mem_fieldContext {d : Document} {retained : List (Option RegionResult)}
    {entry : String × String} (h : entry ∈ fieldContext d retained) :
    entry ∈ d.metadata ∨ entry ∈ capturedIn retained := by
  have hlookup := lookup_of_mem (increasing_entriesOf _).nodup_keys h
  change (fieldContext d retained).lookup entry.1 = some entry.2 at hlookup
  rw [lookup_fieldContext] at hlookup
  rcases Option.or_eq_some_iff.mp hlookup with hmetadata | ⟨-, hcaptured⟩
  · exact .inl (mem_of_lookup hmetadata)
  · exact .inr (List.mem_reverse.mp (mem_of_lookup hcaptured))

/-- The part of a name in front of its first point. -/
theorem takeWhile_point {outer : List Char} (h : '.' ∉ outer) (inner : List Char) :
    (outer ++ '.' :: inner).takeWhile (· != '.') = outer := by
  have houter : ∀ c ∈ outer, (c != '.') = true := fun c hc => bne_iff_ne.mpr fun heq => h (heq ▸ hc)
  rw [List.takeWhile_append_of_pos houter, List.takeWhile_cons_of_neg (by decide), List.append_nil]

/-- Metadata are members of `document` only. -/
theorem metadataName_ne_member {name : String} (hname : isPlaceholderName name.toList = true)
    (hdocument : name ≠ "document") (member inner : String) :
    metadataName member ≠ name ++ "." ++ inner := by
  intro heq
  have hlists : "document".toList ++ '.' :: member.toList =
      name.toList ++ '.' :: inner.toList := by
    simpa [metadataName] using congrArg String.toList heq
  have hfirst := congrArg (List.takeWhile (· != '.')) hlists
  rw [takeWhile_point (by decide),
    takeWhile_point (not_mem_of_isPlaceholderName hname rfl)] at hfirst
  exact hdocument (String.toList_inj.mp hfirst).symm

/-! ## Fields -/

/-- A field has what its template renders to for a value, unless the template is blank. -/
theorem Field.render_of_renderText {f : Field} {value : String} {context : Template.Context}
    (htemplate : (Text.trim f.template.toList).isEmpty = false)
    (hvalue : renderText f.template context = .ok value) (catalog : Option Catalog) :
    f.render context catalog =
      some { dataType := f.dataType? catalog, value := some value
             error := typeFault? (f.dataType? catalog) value } := by
  rw [Field.render, htemplate]
  simp only [Bool.false_eq_true, if_false, hvalue]

/-- A field that only outputs a variable has its text for a value. -/
theorem Field.render_output {f : Field} {name value : String} {context : Template.Context}
    (hname : isPlaceholderName name.toList = true) (hword : name ∉ keywords)
    (htemplate : f.template = outputOf name)
    (hvalue : context.bindings.lookup name = some (.str value)) (catalog : Option Catalog) :
    f.render context catalog =
      some { dataType := f.dataType? catalog, value := some value
             error := typeFault? (f.dataType? catalog) value } := by
  refine f.render_of_renderText ?_ ?_ catalog
  · rw [htemplate, isEmpty_trim_outputOf]
  · rw [htemplate, renderText_output hname hword hvalue]

/-- The kept results of an evaluation are what is kept of the regions. -/
theorem retained_evaluate (v : Evaluator) (p : Pattern) (d : Document) :
    (v.evaluate p d).retained = p.kept d v.config := by
  rw [evaluate_eq_apart, Evaluation.retained, List.map_map]
  rfl

/-- The fields of an evaluation are made from its kept results. -/
theorem fields_evaluate (v : Evaluator) (p : Pattern) (d : Document) :
    (v.evaluate p d).fields = p.fields.map fun f =>
      f.render (fieldContext d (v.evaluate p d).retained) v.catalog v.renderer := by
  rw [retained_evaluate, evaluate_eq_apart, List.map_map]
  rfl

/-- A captured value can be used in fields. If a kept result has a value under the name of a
placeholder, which is no word of the language of templates, not `document`, and not a name of which
a kept result has a member, then a field that only outputs the name has the value of the last kept
result with one. -/
theorem field_of_placeholder (v : Evaluator) (hrenderer : v.renderer = renderText) (p : Pattern)
    (d : Document) {name : String} (hname : isPlaceholderName name.toList = true)
    (hword : name ∉ keywords) (hdocument : name ≠ "document")
    (hmembers : ∀ result, some result ∈ (v.evaluate p d).retained → ∀ values,
      result.values = some values → ∀ inner value, (name ++ "." ++ inner, value) ∉ values)
    (hheld : heldIn (v.evaluate p d).retained name ≠ []) {i : Nat} {f : Field}
    (hfield : p.fields[i]? = some f) (htemplate : f.template = outputOf name) :
    let value := (heldIn (v.evaluate p d).retained name).getLast hheld
    (v.evaluate p d).fields[i]? = some (some {
      dataType := f.dataType? v.catalog
      value := some value
      error := typeFault? (f.dataType? v.catalog) value }) := by
  intro value
  have hretained := retained_evaluate v p d
  have hlookup : (fieldContext d (p.kept d v.config)).lookup name = some value := by
    rw [lookup_fieldContext_placeholder hname, ← hretained]
    exact List.getLast?_eq_getLast_of_ne_nil hheld
  have hnames : ∀ e ∈ fieldContext d (p.kept d v.config), ∀ inner, e.1 ≠ name ++ "." ++ inner := by
    intro e he inner heq
    rcases mem_fieldContext he with hmetadata | hcaptured
    · obtain ⟨member, hmember⟩ := exists_of_mem_metadata hmetadata
      exact metadataName_ne_member hname hdocument member inner (hmember.symm.trans heq)
    · obtain ⟨result, hresult, values, hvalues, hmem⟩ := mem_capturedIn.mp hcaptured
      exact hmembers result (hretained ▸ hresult) values hvalues inner e.2 (heq ▸ hmem)
  have hbound : (fieldContext d (p.kept d v.config)).bindings.lookup name = some (.str value) := by
    rw [Context.lookup_bindings hname hnames, hlookup, Option.map_some]
  rw [fields_evaluate, hretained, hrenderer, List.getElem?_map, hfield, Option.map_some,
    Field.render_output hname hword htemplate hbound]

/-- What a placeholder of an integer captures of a number. -/
theorem extract_nr : extract ((Expression.simple "<nr:int>").compile 1048576) "42" =
    { text := "42", values := some [("nr", "42")], positions := some [(0, 2)] } :=
  @extract_simple "<nr:int>" "42" 1048576 [.placeholder "nr" .int] ⟨[("nr", "42")], [(0, 2)]⟩ rfl
    (by decide +kernel) rfl (by decide +kernel)

/-- Of two regions that capture a number under one name, the value of the second one is used. -/
theorem field_of_placeholder_last :
    let run : TextRun := ⟨⟨10, 10, 50, 20⟩, "42"⟩
    let d : Document := { id := 1, pages := [{ runs := [run] }] }
    let region (e : Expression) : Region :=
      { rect := ⟨0, 0, 100, 100⟩, expression := e.toRegionExpression }
    let p : Pattern :=
      { name := "invoice", regions := [region (.simple "<nr:int>"), region (.regex "(?P<nr>2)")]
        fields := [{ name := "nr", template := outputOf "nr" }] }
    let evaluation := ({} : Evaluator).evaluate p d
    heldIn evaluation.retained "nr" = ["42", "2"] ∧
      evaluation.fields[0]? = some (some { value := some "2" }) := by
  intro run d region p evaluation
  have hregex : extract ((Expression.regex "(?P<nr>2)").compile 1048576) "42" =
      { text := "42", values := some [("nr", "2")], positions := some [(1, 2)] } := by
    decide +kernel
  have hretained : evaluation.retained =
      [some { text := "42", values := some [("nr", "42")], positions := some [(0, 2)]
              isRetained := true },
        some { text := "42", values := some [("nr", "2")], positions := some [(1, 2)]
               isRetained := true }] := by
    have hfirst := @kept_of_corner _ d {} _ rfl _ _ extract_nr
    have hsecond := @kept_of_corner _ d {} _ rfl _ _ hregex
    rw [retained_evaluate]
    show [retainedOf ((region (.simple "<nr:int>")).results d {}),
      retainedOf ((region (.regex "(?P<nr>2)")).results d {})] = _
    rw [hfirst, hsecond]
  have hheld : heldIn evaluation.retained "nr" = ["42", "2"] := by rw [hretained]; rfl
  have hne : heldIn evaluation.retained "nr" ≠ [] := by rw [hheld]; exact List.cons_ne_nil _ _
  have hmembers : ∀ result, some result ∈ evaluation.retained → ∀ values,
      result.values = some values → ∀ inner value, ("nr" ++ "." ++ inner, value) ∉ values := by
    intro result hresult values hvalues inner value hmem
    have hnames : ∀ entry ∈ values, isPlaceholderName entry.1.toList = true := by
      rw [hretained] at hresult
      rcases List.mem_pair.mp hresult with hresult | hresult <;>
        (cases hresult; cases hvalues; decide)
    exact ne_member_of_isPlaceholderName (hnames _ hmem) "nr" inner rfl
  have hlast : (heldIn evaluation.retained "nr").getLast hne = "2" := by
    simp only [hheld, List.getLast_cons_cons, List.getLast_singleton]
  have hfield : evaluation.fields[0]? =
      some (some { value := some ((heldIn evaluation.retained "nr").getLast hne) }) :=
    field_of_placeholder {} rfl p d rfl (by decide) (by decide) hmembers hne (i := 0)
      (f := { name := "nr", template := outputOf "nr" }) rfl rfl
  exact ⟨hheld, hlast ▸ hfield⟩

/-- Two captured values that fields do not have: one under the name of the metadata, and one under a
name of which a regular expression captures a member. -/
theorem field_of_placeholder_shadowed :
    let run : TextRun := ⟨⟨10, 10, 50, 20⟩, "42"⟩
    let d : Document := { id := 1, pages := [{ runs := [run] }] }
    let region (e : Expression) : Region :=
      { rect := ⟨0, 0, 100, 100⟩, expression := e.toRegionExpression }
    let p : Pattern :=
      { name := "invoice"
        regions := [region (.simple "<document:int>"), region (.simple "<nr:int>"),
          region (.regex "(?P<nr.x>2)")]
        fields := [{ name := "a", template := outputOf "document" },
          { name := "b", template := outputOf "nr" }] }
    let evaluation := ({} : Evaluator).evaluate p d
    heldIn evaluation.retained "document" = ["42"] ∧ heldIn evaluation.retained "nr" = ["42"] ∧
      evaluation.fields = [some { value := some "\x7b\"id\": \"1\", \"title\": \"\"\x7d" },
        some { value := some "\x7b\"x\": \"2\"\x7d" }] := by
  intro run d region p evaluation
  have hdocument : extract ((Expression.simple "<document:int>").compile 1048576) "42" =
      { text := "42", values := some [("document", "42")], positions := some [(0, 2)] } :=
    @extract_simple "<document:int>" "42" 1048576 [.placeholder "document" .int]
      ⟨[("document", "42")], [(0, 2)]⟩ rfl (by decide +kernel) rfl (by decide +kernel)
  have hmember : extract ((Expression.regex "(?P<nr.x>2)").compile 1048576) "42" =
      { text := "42", values := some [("nr.x", "2")], positions := some [(1, 2)] } := by
    decide +kernel
  have hretained : evaluation.retained =
      [some { text := "42", values := some [("document", "42")], positions := some [(0, 2)]
              isRetained := true },
        some { text := "42", values := some [("nr", "42")], positions := some [(0, 2)]
               isRetained := true },
        some { text := "42", values := some [("nr.x", "2")], positions := some [(1, 2)]
               isRetained := true }] := by
    have hfirst := @kept_of_corner _ d {} _ rfl _ _ hdocument
    have hsecond := @kept_of_corner _ d {} _ rfl _ _ extract_nr
    have hthird := @kept_of_corner _ d {} _ rfl _ _ hmember
    rw [retained_evaluate]
    show [retainedOf ((region (.simple "<document:int>")).results d {}),
      retainedOf ((region (.simple "<nr:int>")).results d {}),
      retainedOf ((region (.regex "(?P<nr.x>2)")).results d {})] = _
    rw [hfirst, hsecond, hthird]
  refine ⟨by rw [hretained]; rfl, by rw [hretained]; rfl, ?_⟩
  rw [fields_evaluate]
  show p.fields.map (fun f => f.render (fieldContext d evaluation.retained) none) = _
  rw [hretained]
  decide +kernel

end Dossier
