import Dossier.Proofs.Fields.Placeholders
import Dossier.Proofs.Template.Members

/-!
# Defined variables

Templates see a name by the part before its first point and the part after it: a variable, or a
member of a variable. Whether a dotted path is defined is looked up among the names themselves, where
a path is also defined if it ends at a later point. So the two agree as long as no name has more than
one point.

* `Expr.dotted`, `dottedName` : the expression of a dotted path, and its text;
* `Context.Sees` : under a path templates find a value;
* `Context.sees_variable`, `Context.sees_member`, `Context.not_sees_deeper` : the paths of which this
  is so, by the number of their points;
* `Context.defines_iff_sees` : the paths that count as defined;
* `Context.defines_hidden` : a path that counts as defined without a value;
* `defines_fieldContext` : the paths of fields whose names come from simple expressions.
-/

namespace Dossier.Template

/-! ## Dotted paths -/

/-- The expression of the path that starts with a variable and goes on to members. -/
def Expr.dotted (first : String) (members : List String) : Expr :=
  members.foldl Expr.member (.var first)

/-- The text of a path. -/
def dottedName (first : String) (members : List String) : String :=
  members.foldl (fun path name => path ++ "." ++ name) first

theorem Expr.path?_foldl {e : Expr} {first path : String} (h : e.path? = some (first, path))
    (members : List String) :
    (members.foldl Expr.member e).path? =
      some (first, members.foldl (fun path name => path ++ "." ++ name) path) := by
  induction members generalizing e path with
  | nil => exact h
  | cons name members ih => exact ih (by rw [Expr.path?, h, Option.map_some])

theorem Expr.path?_dotted (first : String) (members : List String) :
    (Expr.dotted first members).path? = some (first, dottedName first members) :=
  Expr.path?_foldl rfl members

/-- The points in a name. -/
def pointsIn (name : String) : Nat := name.toList.count '.'

theorem pointsIn_append (a b : String) : pointsIn (a ++ "." ++ b) = pointsIn a + 1 + pointsIn b := by
  simp only [pointsIn, String.toList_append, List.count_append]
  rfl

theorem pointsIn_eq_zero {name : String} : pointsIn name = 0 ↔ '.' ∉ name.toList :=
  List.count_eq_zero

/-- A path has a point for each member. -/
theorem pointsIn_dottedName {first : String} {members : List String}
    (h : ∀ name ∈ first :: members, '.' ∉ name.toList) :
    pointsIn (dottedName first members) = members.length := by
  have hfold : ∀ path : String, pointsIn (members.foldl (fun path name => path ++ "." ++ name) path) =
      pointsIn path + members.length := by
    have hmembers := (List.forall_mem_cons.mp h).2
    clear h
    induction members with
    | nil => exact fun _ => rfl
    | cons name members ih =>
      intro path
      obtain ⟨hname, hrest⟩ := List.forall_mem_cons.mp hmembers
      rw [List.foldl_cons, ih hrest, pointsIn_append, pointsIn_eq_zero.mpr hname,
        List.length_cons]
      omega
  rw [dottedName, hfold, pointsIn_eq_zero.mpr (List.forall_mem_cons.mp h).1, Nat.zero_add]

/-! ## Values of paths -/

/-- What is undefined has no members. -/
theorem Value.member_of_isUndefined {v : Value} (h : v.isUndefined = true) (name : String) :
    v.member name = .undefined := by
  cases v <;> first | rfl | cases h

/-- A path has a value if its members can be gone through one by one. -/
theorem Expr.value_foldl_member {s : Scope} (members : List String) (e : Expr) :
    (∃ v, (members.foldl Expr.member e).value s = .ok v ∧ v.isUndefined = false) ↔
      ∃ v, e.value s = .ok v ∧ (members.foldl Value.member v).isUndefined = false := by
  induction members generalizing e with
  | nil => rfl
  | cons name members ih =>
    have hundefined : ∀ v : Value, v.isUndefined = true →
        (members.foldl Value.member (v.member name)).isUndefined = true := by
      intro v hv
      rw [Value.member_of_isUndefined hv]
      clear ih
      induction members with
      | nil => rfl
      | cons name' members ih => exact ih
    rw [List.foldl_cons, ih, Expr.value]
    cases he : e.value s with
    | error fault => simp [bind, Except.bind]
    | ok v =>
      show (∃ w, partOf v (·.member name) = .ok w ∧ _) ↔ _
      unfold partOf Value.present
      cases hv : v.isUndefined with
      | true => simp [missing, bind, Except.bind, hundefined v hv]
      | false => simp [bind, Except.bind, pure, Except.pure]

namespace Context

variable {c : Context} {first : String}

/-- Templates find a value under a path. -/
def Sees (c : Context) (first : String) (members : List String) : Prop :=
  ∃ v, (Expr.dotted first members).value [[], c.bindings] = .ok v ∧ v.isUndefined = false

/-- The value of a variable. -/
def variableValue (c : Context) (first : String) : Value :=
  (c.bindings.lookup first).getD .undefined

theorem value_variable (first : String) :
    (Expr.var first).value [[], c.bindings] = .ok (c.variableValue first) := by
  rw [Expr.value, Scope.find, List.findSome?_cons, List.lookup_nil, List.findSome?_cons,
    variableValue]
  cases c.bindings.lookup first <;> rfl

theorem sees_iff (members : List String) :
    c.Sees first members ↔
      (members.foldl Value.member (c.variableValue first)).isUndefined = false := by
  rw [Sees, Expr.dotted, Expr.value_foldl_member, value_variable]
  simp

/-! ## Variables -/

theorem splitName?_of_no_point (h : '.' ∉ first.toList) : splitName? first = none := by
  cases hsplit : splitName? first with
  | none => rfl
  | some parts =>
    rw [eq_of_splitName? hsplit] at h
    simp at h

theorem mem_membersOf (h : '.' ∉ first.toList) {name : String} :
    name ∈ (c.membersOf first).map Prod.fst ↔ first ++ "." ++ name ∈ c.map Prod.fst := by
  rw [← isSome_lookup, lookup_membersOf h, Option.isSome_map, isSome_lookup]

theorem membersOf_eq_nil (h : '.' ∉ first.toList) :
    c.membersOf first = [] ↔ ∀ name, first ++ "." ++ name ∉ c.map Prod.fst := by
  simp only [← mem_membersOf h]
  rw [← List.map_eq_nil_iff (f := Prod.fst), List.eq_nil_iff_forall_not_mem]

/-- A variable with members is the map of its members, whatever else has its name. -/
theorem variableValue_of_members (h : c.membersOf first ≠ []) :
    c.variableValue first = .ofNamed (c.membersOf first) := by
  obtain ⟨members, hmembers⟩ : ∃ members, c.members.lookup first = some members := by
    cases hnone : c.members.lookup first with
    | some members => exact ⟨members, rfl⟩
    | none => exact absurd (by rw [← lookup_members, hnone]; rfl) h
  have hbound : (c.members.map fun p => (p.1, Value.ofNamed p.2)).lookup first =
      some (.ofNamed members) := by
    refine lookup_of_mem ?_ (List.mem_map_of_mem (mem_of_lookup hmembers))
    rw [List.map_map]
    exact (increasing_members c).nodup_keys
  rw [variableValue, bindings, List.lookup_append, hbound, ← lookup_members, hmembers]
  rfl

/-- A variable without members is the text with its name. -/
theorem variableValue_of_no_members (hfirst : '.' ∉ first.toList) (h : c.membersOf first = []) :
    c.variableValue first = ((c.lookup first).map Value.str).getD .undefined := by
  rw [variableValue, bindings, List.lookup_append, lookup_eq_none_of_not_mem, Option.none_or,
    lookup_plain (splitName?_of_no_point hfirst)]
  intro hmem
  rw [List.map_map] at hmem
  obtain ⟨p, hp, rfl⟩ := List.mem_map.mp hmem
  obtain ⟨e, he, inner, hinner⟩ := exists_of_mem_members hp
  exact (membersOf_eq_nil hfirst).mp h inner (List.mem_map.mpr ⟨e, he, hinner⟩)

/-- Templates see a variable if it is a name, or in front of a point in a name. -/
theorem sees_variable (h : '.' ∉ first.toList) :
    c.Sees first [] ↔ first ∈ c.map Prod.fst ∨ ∃ name, first ++ "." ++ name ∈ c.map Prod.fst := by
  rw [sees_iff, List.foldl_nil]
  by_cases hmembers : c.membersOf first = []
  · have hnone := (membersOf_eq_nil h).mp hmembers
    rw [variableValue_of_no_members h hmembers]
    simp only [hnone, exists_false, or_false, ← isSome_lookup]
    cases c.lookup first <;> simp [Value.isUndefined]
  · obtain ⟨name, hname⟩ := not_forall_not.mp fun hnone => hmembers ((membersOf_eq_nil h).mpr hnone)
    rw [variableValue_of_members hmembers]
    exact iff_of_true rfl (.inr ⟨name, hname⟩)

/-! ## Members -/

/-- A member of a variable is the text with the dotted name, the last one if there are several. -/
theorem member_variableValue (h : '.' ∉ first.toList) (name : String) :
    (c.variableValue first).member name =
      ((c.reverse.lookup (first ++ "." ++ name)).map Value.str).getD .undefined := by
  by_cases hmembers : c.membersOf first = []
  · have hnone : c.reverse.lookup (first ++ "." ++ name) = none := by
      refine lookup_eq_none_of_not_mem ?_
      rw [List.map_reverse, List.mem_reverse]
      exact (membersOf_eq_nil h).mp hmembers name
    rw [variableValue_of_no_members h hmembers, hnone]
    cases c.lookup first <;> rfl
  · have hreverse : (c.membersOf first).reverse = membersOf c.reverse first :=
      (List.filterMap_reverse ..).symm
    rw [variableValue_of_members hmembers, Value.member_ofNamed, hreverse, lookup_membersOf h]

/-- Templates see a member if the variable, a point and the member are a name. -/
theorem sees_member (h : '.' ∉ first.toList) (name : String) :
    c.Sees first [name] ↔ first ++ "." ++ name ∈ c.map Prod.fst := by
  rw [sees_iff, List.foldl_cons, List.foldl_nil, member_variableValue h, ← List.mem_reverse,
    ← List.map_reverse, ← isSome_lookup]
  cases c.reverse.lookup (first ++ "." ++ name) <;> simp [Value.isUndefined]

/-- A member is a text and has no members of its own. -/
theorem not_sees_deeper (h : '.' ∉ first.toList) (name name' : String) (members : List String) :
    ¬ c.Sees first (name :: name' :: members) := by
  have hnone : ∀ members : List String,
      (members.foldl Value.member Value.undefined).isUndefined = true := by
    intro members
    induction members with
    | nil => rfl
    | cons name members ih => exact ih
  have htext : ((c.variableValue first).member name).member name' = .undefined := by
    rw [member_variableValue h]
    cases c.reverse.lookup (first ++ "." ++ name) <;> rfl
  rw [sees_iff, List.foldl_cons, List.foldl_cons, htext, hnone]
  exact Bool.true_eq_false.mp

/-! ## Paths that count as defined -/

/-- A name counts as defined if it is a name, or what stands before a point in a name. -/
theorem defines_iff {path : String} :
    c.defines path = true ↔
      ∃ key ∈ c.map Prod.fst, key = path ∨ ∃ rest, key = path ++ "." ++ rest := by
  have hprefix : ∀ key : String, (path.toList ++ ['.']).isPrefixOf key.toList = true ↔
      ∃ rest, key = path ++ "." ++ rest := by
    intro key
    rw [List.isPrefixOf_iff_prefix]
    constructor
    · rintro ⟨rest, hrest⟩
      exact ⟨String.ofList rest, String.toList_inj.mp (by simp [← hrest])⟩
    · rintro ⟨rest, rfl⟩
      exact ⟨rest.toList, by simp⟩
  simp only [defines, List.any_eq_true, Bool.or_eq_true, beq_iff_eq, hprefix, List.mem_map,
    exists_exists_and_eq_and]

/-- A path ends inside a name that has more than one point, or is such a name. -/
def Hides (c : Context) (path : String) : Prop :=
  ∃ key ∈ c.map Prod.fst, 2 ≤ pointsIn key ∧ (key = path ∨ ∃ rest, key = path ++ "." ++ rest)

theorem defines_of_hides {path : String} (h : c.Hides path) : c.defines path = true := by
  obtain ⟨key, hkey, -, hpath⟩ := h
  exact defines_iff.mpr ⟨key, hkey, hpath⟩

section Paths

variable {members : List String} (hnames : ∀ name ∈ first :: members, '.' ∉ name.toList)

include hnames

theorem defines_of_sees (h : c.Sees first members) :
    c.defines (dottedName first members) = true := by
  have hfirst := (List.forall_mem_cons.mp hnames).1
  match members with
  | [] =>
    rcases (sees_variable hfirst).mp h with hkey | ⟨name, hkey⟩
    · exact defines_iff.mpr ⟨first, hkey, .inl rfl⟩
    · exact defines_iff.mpr ⟨_, hkey, .inr ⟨name, rfl⟩⟩
  | [name] => exact defines_iff.mpr ⟨_, (sees_member hfirst name).mp h, .inl rfl⟩
  | name :: name' :: members => exact absurd h (not_sees_deeper hfirst name name' members)

theorem sees_or_hides_of_defines (h : c.defines (dottedName first members) = true) :
    c.Sees first members ∨ c.Hides (dottedName first members) := by
  have hfirst := (List.forall_mem_cons.mp hnames).1
  have hpoints := pointsIn_dottedName hnames
  obtain ⟨key, hkey, hpath⟩ := defines_iff.mp h
  match members with
  | [] =>
    refine .inl ((sees_variable hfirst).mpr ?_)
    rcases hpath with rfl | ⟨name, rfl⟩
    · exact .inl hkey
    · exact .inr ⟨name, hkey⟩
  | [name] =>
    rcases hpath with rfl | ⟨rest, rfl⟩
    · exact .inl ((sees_member hfirst name).mpr hkey)
    · refine .inr ⟨_, hkey, ?_, .inr ⟨rest, rfl⟩⟩
      rw [pointsIn_append, hpoints, List.length_singleton]
      omega
  | name :: name' :: members =>
    refine .inr ⟨key, hkey, ?_, hpath⟩
    rw [List.length_cons, List.length_cons] at hpoints
    rcases hpath with rfl | ⟨rest, rfl⟩
    · omega
    · rw [pointsIn_append]
      omega

/-- With names of at most one point, a path counts as defined if templates find a value under it. -/
theorem defines_iff_sees_of_points (hkeys : ∀ key ∈ c.map Prod.fst, pointsIn key ≤ 1) :
    c.defines (dottedName first members) = true ↔ c.Sees first members := by
  refine ⟨fun h => (sees_or_hides_of_defines hnames h).resolve_right ?_, defines_of_sees hnames⟩
  rintro ⟨key, hkey, hpoints, -⟩
  exact absurd (hkeys key hkey) (by omega)

end Paths

/-- Which paths count as defined. In every context these are the paths under which templates find a
value, and those that end inside of a name with more than one point or are such a name. So it is
known of each variable whether templates see it, and of each path whether it has a value if no name
has more than one point. -/
theorem defines_iff_sees {c : Context} {first : String} {members : List String}
    (hnames : ∀ name ∈ first :: members, '.' ∉ name.toList) :
    (c.defines (dottedName first members) = true ↔
      c.Sees first members ∨ c.Hides (dottedName first members)) ∧
    (c.defines first = true ↔ c.Sees first []) ∧
    ((∀ key ∈ c.map Prod.fst, pointsIn key ≤ 1) →
      (c.defines (dottedName first members) = true ↔ c.Sees first members)) := by
  have hfirst : ∀ name ∈ [first], '.' ∉ name.toList := by
    simpa using (List.forall_mem_cons.mp hnames).1
  refine ⟨⟨sees_or_hides_of_defines hnames, ?_⟩, ⟨fun h => ?_, defines_of_sees hfirst⟩,
    defines_iff_sees_of_points hnames⟩
  · rintro (h | h)
    · exact defines_of_sees hnames h
    · exact defines_of_hides h
  · -- A name that goes on after the variable has it as a member, however many points it has.
    refine (sees_variable (hfirst first List.mem_cons_self)).mpr ?_
    obtain ⟨key, hkey, rfl | ⟨rest, rfl⟩⟩ := defines_iff.mp h
    · exact .inl hkey
    · exact .inr ⟨rest, hkey⟩

/-- Of a name with a point templates see the variable and the member. -/
theorem defines_iff_sees_total :
    (∀ name ∈ ["invoice", "total"], '.' ∉ name.toList) ∧
    defines [("invoice.total", "12")] "invoice.total" = true ∧
    Sees [("invoice.total", "12")] "invoice" ["total"] ∧
    Sees [("invoice.total", "12")] "invoice" [] := by
  have hnames : ∀ name ∈ ["invoice", "total"], '.' ∉ name.toList := by decide
  have hkeys : ∀ key ∈ [("invoice.total", "12")].map Prod.fst, pointsIn key ≤ 1 := by decide
  obtain ⟨-, hvariable, hpath⟩ := defines_iff_sees (c := [("invoice.total", "12")]) hnames
  have hdefined : defines [("invoice.total", "12")] "invoice.total" = true := by decide
  exact ⟨hnames, hdefined, (hpath hkeys).mp hdefined, hvariable.mp (by decide)⟩

/-- A path that counts as defined although templates find nothing under it: of the name with two
points they see the member with a point in its name. The error of the missing value has no name. -/
theorem defines_hidden :
    let c : Context := [("a.b.c", "1")]
    c.defines "a.b" = true ∧ ¬ c.Sees "a" ["b"] ∧ c.defines "a.b.c" = true ∧
      ¬ c.Sees "a" ["b", "c"] ∧
      renderText "\x7b\x7b a.b \x7d\x7d" c = .error (.undefinedVariable none) := by
  intro c
  have ha : '.' ∉ "a".toList := by decide
  refine ⟨by decide, ?_, by decide, not_sees_deeper ha "b" "c" [], by decide +kernel⟩
  rw [sees_member ha]
  decide

end Context

/-! ## Names for fields -/

/-- The names for the fields of a pattern have at most one point if the expressions of its regions
are simple. -/
theorem pointsIn_fieldContext {p : Pattern} (hsimple : ∀ r ∈ p.regions, r.expression.kind = .simple)
    (d : Document) (config : Config) :
    ∀ key ∈ (fieldContext d (p.kept d config)).map Prod.fst, pointsIn key ≤ 1 := by
  intro key hkey
  obtain ⟨entry, hentry, rfl⟩ := List.mem_map.mp hkey
  rcases mem_fieldContext hentry with hmetadata | hcaptured
  · rw [metadata_eq] at hmetadata
    obtain ⟨m, hm, hset⟩ := List.mem_filterMap.mp hmetadata
    obtain ⟨value, -, rfl⟩ := Option.map_eq_some_iff.mp hset
    have hmember : ∀ m ∈ d.members, pointsIn (metadataName m.1) ≤ 1 := by
      simp only [Document.members, List.forall_mem_cons, List.not_mem_nil, false_imp_iff,
        implies_true, and_true]
      decide
    exact hmember m hm
  · obtain ⟨result, hresult, values, hvalues, hmem⟩ := mem_capturedIn.mp hcaptured
    obtain ⟨r, hr, hkept⟩ := List.mem_map.mp hresult
    have hname := r.isPlaceholderName_of_simple (hsimple r hr) (List.mem_of_find?_eq_some hkept)
      hvalues (List.mem_map_of_mem hmem)
    rw [pointsIn_eq_zero.mpr (not_mem_of_isPlaceholderName hname rfl)]
    exact Nat.zero_le 1

/-- So for the fields of such a pattern a path counts as defined just if it has a value. -/
theorem defines_fieldContext {p : Pattern} (hsimple : ∀ r ∈ p.regions, r.expression.kind = .simple)
    (d : Document) (config : Config) {first : String} {members : List String}
    (hnames : ∀ name ∈ first :: members, '.' ∉ name.toList) :
    Context.defines (fieldContext d (p.kept d config)) (dottedName first members) = true ↔
      Context.Sees (fieldContext d (p.kept d config)) first members :=
  Context.defines_iff_sees_of_points hnames (pointsIn_fieldContext hsimple d config)

end Dossier.Template
