import Dossier.Proofs.Template.Free

/-!
# The name in the error of a missing value

The error of a rendering that fails for a missing value does not have the name of what stopped it.
It has the first name in order that the template reads and the context does not define. That is the
name of the path that stopped the rendering just if every other free variable before it is defined:
a name that is only tested, that stands in a branch that is not taken, or that has a default, is
blamed if it comes before.

* `firstName_eq_some` : the first of some names;
* `StopsAt` : what stops a template under a context;
* `undefinedVariable_name` : which name the error has, and when it is the right one;
* `undefinedVariable_bystander` : a wrong one.
-/

namespace Dossier.Template

/-! ## The first of some names -/

/-- A name is one of some names, and none of them comes before it. -/
def IsFirst (names : List String) (name : String) : Prop :=
  name ∈ names ∧ ∀ other ∈ names, name ≤ other

theorem IsFirst.unique {names : List String} {a b : String} (ha : IsFirst names a)
    (hb : IsFirst names b) : a = b := String.le_antisymm (ha.2 b hb.1) (hb.2 a ha.1)

theorem IsFirst.perm {names others : List String} {name : String} (h : IsFirst names name)
    (hperm : names.Perm others) : IsFirst others name :=
  ⟨hperm.mem_iff.mp h.1, fun other hother => h.2 other (hperm.mem_iff.mpr hother)⟩

/-- The first of some names stays it if a later one is added. -/
theorem IsFirst.insert {names : List String} {first name next : String}
    (h : IsFirst (first :: names) name) (hle : first ≤ next) :
    IsFirst (first :: next :: names) name := by
  obtain ⟨hname, hfirst⟩ := h
  obtain ⟨hle', hnames⟩ := List.forall_mem_cons.mp hfirst
  refine ⟨?_, List.forall_mem_cons.mpr ⟨hle', List.forall_mem_cons.mpr
    ⟨String.le_trans hle' hle, hnames⟩⟩⟩
  exact (List.mem_cons.mp hname).elim (fun h => h ▸ List.mem_cons_self)
    fun h => List.mem_cons_of_mem _ (List.mem_cons_of_mem _ h)

theorem exists_firstName (first : String) (names : List String) :
    ∃ name, firstName (first :: names) = some name ∧ IsFirst (first :: names) name := by
  unfold firstName
  rw [List.foldl_cons]
  induction names generalizing first with
  | nil => exact ⟨first, rfl, by simp [IsFirst]⟩
  | cons next names ih =>
    rw [List.foldl_cons]
    dsimp only
    by_cases hlt : next < first
    · obtain ⟨name, hname, hfirst⟩ := ih next
      rw [if_pos hlt]
      have hle : next ≤ first := String.not_lt.mp (String.lt_asymm hlt)
      exact ⟨name, hname, (hfirst.insert hle).perm (.swap ..)⟩
    · obtain ⟨name, hname, hfirst⟩ := ih first
      rw [if_neg hlt]
      exact ⟨name, hname, hfirst.insert (String.not_lt.mp hlt)⟩

theorem firstName_eq_none (names : List String) : firstName names = none ↔ names = [] := by
  cases names with
  | nil => exact iff_of_true rfl rfl
  | cons first names =>
    obtain ⟨name, hname, -⟩ := exists_firstName first names
    simp [hname]

theorem firstName_eq_some {names : List String} {name : String} :
    firstName names = some name ↔ IsFirst names name := by
  cases names with
  | nil => simp [firstName, IsFirst]
  | cons first names =>
    obtain ⟨least, hleast, hfirst⟩ := exists_firstName first names
    rw [hleast, Option.some.injEq]
    constructor
    · rintro rfl
      exact hfirst
    · exact hfirst.unique

section Rendering

variable {t : Dossier.Template} {c : Context}

/-- The rendering of a template stops at an expression, which is evaluated in a scope. -/
def StopsAt (t : Dossier.Template) (c : Context) (s : Scope) (x : Expr) : Prop :=
  StopsParts [[], c.bindings] t.nodes s x

theorem render_eq_undefinedVariable {name : Option String} :
    t.render c = .error (.undefinedVariable name) ↔
      (∃ s x, t.StopsAt c s x) ∧ name = t.missingName c := by
  unfold StopsAt
  rw [← misses_iff_stopsParts]
  unfold Dossier.Template.render
  cases hparts : renderNodes [[], c.bindings] t.nodes with
  | ok result => simp
  | error fault =>
    cases fault with
    | undefinedVariable n => simp [misses_error, eq_comm]
    | _ => simp [misses_error]

theorem missingName_eq_none :
    t.missingName c = none ↔ ∀ name ∈ t.free, c.defines name = true := by
  rw [missingName, firstName_eq_none, List.filter_eq_nil_iff]
  simp

theorem missingName_eq_some {name : String} :
    t.missingName c = some name ↔ name ∈ t.free ∧ c.defines name = false ∧
      ∀ other ∈ t.free, c.defines other = false → name ≤ other := by
  rw [missingName, firstName_eq_some, IsFirst]
  simp [and_assoc]

/-- Under a path that stops a rendering the context has nothing, if its variable is not assigned. -/
theorem StopsAt.not_sees {s : Scope} {first : String} {members : List String}
    (h : t.StopsAt c s (.dotted first members)) (hassigns : first ∉ assignsAll t.nodes) :
    ¬ c.Sees first members := by
  rintro ⟨v, hv, hdefined⟩
  have hvalue := Expr.value_dotted (StopsParts.find_eq h hassigns) members
  rw [hv] at hvalue
  rcases StopsParts.undefined h with hmisses | ⟨w, hw, hundefined⟩
  · rw [hvalue] at hmisses
    exact not_misses_ok v hmisses
  · rw [hvalue] at hw
    cases hw
    rw [hdefined] at hundefined
    cases hundefined

end Rendering

/-- Which name the error of a missing value has. There is an error of this kind just if something
stops the rendering. Its name is the first one of the free variables that the context does not
define, and there is none if it defines all of them. A path that stops the rendering, whose variable
the template does not assign and which does not end inside of a name, is a free variable that has no
value. The name is that of the path, or comes before it; and it is that of the path just if all free
variables before it are defined. -/
theorem undefinedVariable_name (t : Dossier.Template) (c : Context) :
    ((∃ name, t.render c = .error (.undefinedVariable name)) ↔ ∃ s x, t.StopsAt c s x) ∧
    (∀ name, t.render c = .error (.undefinedVariable name) →
      (name = none ↔ ∀ other ∈ t.free, c.defines other = true) ∧
      ∀ n, name = some n → n ∈ t.free ∧ c.defines n = false ∧
        ∀ other ∈ t.free, c.defines other = false → n ≤ other) ∧
    ∀ s first members, t.StopsAt c s (.dotted first members) → first ∉ assignsAll t.nodes →
      (∀ name ∈ first :: members, '.' ∉ name.toList) → ¬ c.Hides (dottedName first members) →
      dottedName first members ∈ t.free ∧ ¬ c.Sees first members ∧
      ∃ name, t.render c = .error (.undefinedVariable (some name)) ∧
        name ≤ dottedName first members ∧
        (name = dottedName first members ↔
          ∀ other ∈ t.free, other < dottedName first members → c.defines other = true) := by
  refine ⟨?_, fun name hname => ?_, fun s first members h hassigns hnames hhides => ?_⟩
  · simp only [render_eq_undefinedVariable, exists_and_left, exists_eq, and_true]
  · obtain ⟨-, rfl⟩ := render_eq_undefinedVariable.mp hname
    exact ⟨missingName_eq_none, fun n hn => missingName_eq_some.mp hn⟩
  · have hfree : dottedName first members ∈ t.free :=
      StopsParts.mem_free h (Expr.path?_dotted first members) hassigns List.not_mem_nil
    have hsees := h.not_sees hassigns
    have hdefines : c.defines (dottedName first members) = false := by
      rw [Bool.eq_false_iff]
      intro hdefined
      exact (Context.sees_or_hides_of_defines hnames hdefined).elim hsees hhides
    cases hmissing : t.missingName c with
    | none =>
      rw [missingName_eq_none.mp hmissing _ hfree] at hdefines
      cases hdefines
    | some name =>
      obtain ⟨hname, hundefined, hleast⟩ := missingName_eq_some.mp hmissing
      have hle := hleast _ hfree hdefines
      refine ⟨hfree, hsees, name,
        render_eq_undefinedVariable.mpr ⟨⟨s, _, h⟩, hmissing.symm⟩, hle, ?_, fun hall => ?_⟩
      · rintro rfl other hother hlt
        by_contra hdefined
        exact String.not_lt.mpr (hleast other hother (Bool.eq_false_iff.mpr hdefined)) hlt
      · refine String.le_antisymm hle (String.not_lt.mp fun hlt => ?_)
        rw [hall name hname hlt] at hundefined
        cases hundefined

/-- An amount, metadata that is not set, and a tax that is not set either. The error has the name of
the metadata, since the amount has a value and the tax comes after it. -/
theorem undefinedVariable_name_storagePath :
    let t : Dossier.Template := ⟨[.output (.var "amount"),
      .output (.dotted "document" ["storage_path"]), .output (.var "vat")]⟩
    let c : Context := [("amount", "12"), ("document.id", "1")]
    t.StopsAt c [[], c.bindings] (.dotted "document" ["storage_path"]) ∧
      "document" ∉ assignsAll t.nodes ∧
      (∀ name ∈ ["document", "storage_path"], '.' ∉ name.toList) ∧
      ¬ c.Hides "document.storage_path" ∧
      c.defines "amount" = true ∧ c.defines "vat" = false ∧
      t.render c = .error (.undefinedVariable (some "document.storage_path")) := by
  intro t c
  have hkeys : (c.map Prod.fst).Nodup := by decide
  have hother : "document" ++ "." ++ "id" ∈ c.map Prod.fst := .tail _ (.head _)
  have hvalue : (Expr.dotted "document" ["storage_path"]).value [[], c.bindings] =
      .ok .undefined :=
    Context.value_member (by decide) hkeys hother "storage_path"
  have hfound : (c.membersOf "amount").isEmpty = true ∧ c.defines "amount" = true ∧
      c.defines "vat" = false ∧ t.free = ["amount", "document.storage_path", "vat"] := by
    decide +kernel
  obtain ⟨hplain, hbefore, hafter, hfree⟩ := hfound
  have hlookup : c.lookup "amount" = some "12" := by decide
  have hamount : (Node.output (.var "amount")).render [[], c.bindings] =
      .ok ("12", [[], c.bindings]) := by
    rw [Node.render, Context.value_variable,
      Context.variableValue_of_no_members (by decide) (List.isEmpty_iff.mp hplain), hlookup]
    rfl
  have hstops : t.StopsAt c [[], c.bindings] (.dotted "document" ["storage_path"]) :=
    .later hamount (.output (.inr ⟨hvalue, .self rfl⟩))
  have hassigns : "document" ∉ assignsAll t.nodes := List.not_mem_nil
  have hnames : ∀ name ∈ ["document", "storage_path"], '.' ∉ name.toList := by decide
  have hhides : ¬ c.Hides "document.storage_path" := by
    rintro ⟨key, hkey, hpoints, -⟩
    have hfew : ∀ key ∈ c.map Prod.fst, ¬ 1 < key.toList.count '.' := by decide
    exact hfew key hkey hpoints
  obtain ⟨-, -, hpath⟩ := undefinedVariable_name t c
  obtain ⟨-, -, name, hrender, -, hname⟩ :=
    hpath _ "document" ["storage_path"] hstops hassigns hnames hhides
  obtain rfl : name = "document.storage_path" := by
    refine hname.mpr fun other hother hlt => ?_
    rw [hfree] at hother
    obtain rfl | rfl | rfl : other = "amount" ∨ other = "document.storage_path" ∨ other = "vat" := by
      simpa using hother
    · exact hbefore
    · exact absurd hlt (String.lt_irrefl _)
    · exact absurd hlt (by decide)
  exact ⟨hstops, hassigns, hnames, hhides, hbefore, hafter, hrender⟩

/-- A discount if there is one, and the value-added tax. -/
def discountAndTax : Dossier.Template :=
  ⟨[.branch (.test "defined" (.var "discount") []) [.output (.var "discount")] [],
    .output (.var "vat")]⟩

/-- Without a discount and a tax, only the tax stops the template. -/
theorem stopsAt_discountAndTax :
    (∃ s, discountAndTax.StopsAt [("total", "12")] s (.var "vat")) ∧
      ∀ s x, discountAndTax.StopsAt [("total", "12")] s x → x = .var "vat" := by
  have hbindings : Context.bindings [("total", "12")] = [("total", .str "12")] := rfl
  have htest : (Expr.test "defined" (.var "discount") []).value [[], [("total", .str "12")]] =
      .ok (.bool false) := rfl
  have hvat : (Expr.var "vat").value [[], [("total", .str "12")]] = .ok .undefined := rfl
  have hbranch : (Node.branch (.test "defined" (.var "discount") [])
      [.output (.var "discount")] []).render [[], [("total", .str "12")]] =
        .ok ("", [[], [("total", .str "12")]]) := rfl
  have houtput : StopsParts [[], [("total", .str "12")]] [.output (.var "vat")]
      [[], [("total", .str "12")]] (.var "vat") := .output (.inr ⟨hvat, .self rfl⟩)
  unfold StopsAt
  rw [hbindings]
  refine ⟨⟨_, .later hbranch houtput⟩, fun s x h => ?_⟩
  cases h with
  | later _ h =>
    cases h with
    | later _ h => cases h
    | output h => exact h.eq_of_isPath rfl
  | test h =>
    rcases Expr.exists_stopsUse.mp ⟨x, h⟩ with hmisses | hnothing
    · rw [htest] at hmisses
      exact absurd hmisses (not_misses_ok _)
    · rw [htest] at hnothing
      cases hnothing
  | branch hholds h =>
    rw [htest] at hholds
    cases hholds
    cases h

/-- An error with a wrong name. What stops the rendering is the value-added tax, which is printed.
The error has the name of the discount, which is only printed if it is defined. With a discount the
rendering stops at the same place, and the error has the right name; with the tax it does not stop. -/
theorem undefinedVariable_bystander :
    Dossier.Template.read ("\x7b% if discount is defined %\x7d\x7b\x7b discount \x7d\x7d" ++
      "\x7b% endif %\x7d\x7b\x7b vat \x7d\x7d") = .ok discountAndTax ∧
      (∃ s, discountAndTax.StopsAt [("total", "12")] s (.var "vat")) ∧
      (∀ s x, discountAndTax.StopsAt [("total", "12")] s x → x = .var "vat") ∧
      discountAndTax.render [("total", "12")] = .error (.undefinedVariable (some "discount")) ∧
      discountAndTax.render [("discount", "1"), ("total", "12")] =
        .error (.undefinedVariable (some "vat")) ∧
      discountAndTax.render [("total", "12"), ("vat", "3")] = .ok "3" := by
  have hscan : Token.scan ("\x7b% if discount is defined %\x7d\x7b\x7b discount \x7d\x7d" ++
      "\x7b% endif %\x7d\x7b\x7b vat \x7d\x7d").toList =
      [.blockStart, .name "if", .name "discount", .name "is", .name "defined", .blockEnd,
        .outputStart, .name "discount", .outputEnd, .blockStart, .name "endif", .blockEnd,
        .outputStart, .name "vat", .outputEnd] := rfl
  obtain ⟨hstops, hunique⟩ := stopsAt_discountAndTax
  refine ⟨?_, hstops, hunique, ?_, ?_, ?_⟩
  · rw [Template.read, hscan]
    rfl
  all_goals decide +kernel

end Dossier.Template
