import Dossier.Proofs.Template.Variable

/-!
# Members of variables

What stands for a member of a variable is the text whose name is that of the variable, a point and
that of the member.

* `Value.member_ofNamed` : the members of a map of values with names;
* `Context.membersOf` : the members of a variable, from the names with points;
* `Context.value_member` : the value of a member;
* `read_dateCreated` : the template that outputs the date of the document.
-/

namespace Dossier

/-- A text is cut at its first separator. -/
theorem Text.cutAt?_append {separator : Char} {before : List Char} (h : separator ∉ before)
    (after : List Char) :
    cutAt? [separator] (before ++ separator :: after) = some (before, after) := by
  induction before with
  | nil => simp [cutAt?]
  | cons c before ih =>
    obtain ⟨hc, hbefore⟩ := List.ne_and_not_mem_of_not_mem_cons h
    simp [cutAt?, hc, ih hbefore]

namespace Template

/-! ## Maps -/

namespace Value

/-- Among strings, values are put at a key as in other entries. -/
theorem put_str (key : String) (value : Value) (entries : List (String × Value)) :
    put (str key) value (entries.map fun p => (str p.1, p.2)) =
      (putEntry key value entries).map fun p => (str p.1, p.2) := by
  unfold putEntry
  induction entries with
  | nil => rfl
  | cons p entries ih =>
    have hcompare : compare (str key) (str p.1) = compareOfLessAndEq key p.1 := by
      rw [compare, compareBasic]
      · rfl
      all_goals simp
    rw [List.map_cons, put, hcompare, updateEntry, compareOfLessAndEq]
    by_cases hlt : key < p.1
    · simp [hlt]
    · by_cases heq : key = p.1
      · simp [heq]
      · simp [hlt, heq, ih]

theorem find?_str (name : String) (entries : List (String × Value)) :
    find? (str name) (entries.map fun p => (str p.1, p.2)) = entries.lookup name := by
  induction entries with
  | nil => rfl
  | cons p entries ih =>
    have hequal : equal (str p.1) (str name) = (name == p.1) := by
      rw [equal, equalBasic, Bool.beq_comm] <;> simp
    rw [find?, List.map_cons, List.find?_cons, hequal, List.lookup_cons, ← ih, find?]
    cases name == p.1 <;> rfl

/-- The member of a map of values with names is the last value with its name. -/
theorem member_ofNamed (pairs : List (String × Value)) (name : String) :
    (ofNamed pairs).member name = (pairs.reverse.lookup name).getD undefined := by
  have hput : ∀ entries : List (String × Value),
      pairs.foldl (fun entries p => put (str p.1) p.2 entries)
          (entries.map fun p => (str p.1, p.2)) =
        (pairs.foldl (fun entries p => putEntry p.1 p.2 entries) entries).map
          fun p => (str p.1, p.2) := by
    induction pairs with
    | nil => exact fun _ => rfl
    | cons p pairs ih =>
      intro entries
      rw [List.foldl_cons, List.foldl_cons, put_str, ih]
  have hmap : ofNamed pairs = map ((entriesOf pairs).map fun p => (str p.1, p.2)) := by
    rw [ofNamed, ofEntries, List.foldl_map]
    exact congrArg map (hput [])
  rw [hmap, member, find?_str, lookup_entriesOf]

end Value

namespace Context

variable {c : Context} {outer inner : String}

/-- A name has a variable and a member if there is a point between them, and none in the variable. -/
theorem splitName?_eq_some_iff (houter : '.' ∉ outer.toList) {key : String} :
    splitName? key = some (outer, inner) ↔ key = outer ++ "." ++ inner := by
  refine ⟨eq_of_splitName?, ?_⟩
  rintro rfl
  have hcut := Text.cutAt?_append houter inner.toList
  simp [splitName?, hcut]

/-- The members of a variable, from the names with points. -/
def membersOf (c : Context) (outer : String) : List (String × Value) :=
  c.filterMap fun (name, text) =>
    match splitName? name with
    | some (first, inner) => if first = outer then some (inner, .str text) else none
    | none => none

theorem increasing_members (c : Context) : Increasing c.members := by
  induction c with
  | nil => exact .nil
  | cons e c ih =>
    rw [members]
    split
    · exact ih.updateEntry _ _
    · exact ih

theorem lookup_members (c : Context) (outer : String) :
    (c.members.lookup outer).getD [] = c.membersOf outer := by
  induction c with
  | nil => rfl
  | cons e c ih =>
    obtain ⟨name, text⟩ := e
    unfold membersOf at ih ⊢
    rw [members]
    cases hsplit : splitName? name with
    | none => simpa [hsplit] using ih
    | some parts =>
      obtain ⟨first, inner⟩ := parts
      by_cases hfirst : outer = first
      · subst hfirst
        simp [hsplit, (increasing_members c).lookup_updateEntry, ih]
      · simp [hsplit, lookup_updateEntry_of_ne hfirst, Ne.symm hfirst, ih]

/-- A member of a variable is the text with the dotted name. -/
theorem lookup_membersOf (houter : '.' ∉ outer.toList) (c : Context) (inner : String) :
    (c.membersOf outer).lookup inner = (c.lookup (outer ++ "." ++ inner)).map .str := by
  induction c with
  | nil => rfl
  | cons e c ih =>
    obtain ⟨name, text⟩ := e
    unfold membersOf at ih ⊢
    by_cases hname : outer ++ "." ++ inner = name
    · have hsplit := (splitName?_eq_some_iff houter).mpr hname.symm
      simp [hsplit, hname]
    · rw [lookup_cons_of_ne hname, ← ih]
      cases hsplit : splitName? name with
      | none => simp [hsplit]
      | some parts =>
        obtain ⟨first, inner'⟩ := parts
        by_cases hfirst : first = outer
        · subst hfirst
          have hinner : inner ≠ inner' := by
            rintro rfl
            exact hname (eq_of_splitName? hsplit).symm
          simp [hsplit, lookup_cons_of_ne hinner]
        · simp [hsplit, hfirst]

section Bound

variable (houter : '.' ∉ outer.toList) (hkeys : (c.map Prod.fst).Nodup) {other : String}
  (hother : outer ++ "." ++ other ∈ c.map Prod.fst)

include houter hkeys hother

/-- A variable that has a member is the map of its members. -/
theorem lookup_bindings_members :
    c.bindings.lookup outer = some (.ofNamed (c.membersOf outer)) := by
  obtain ⟨⟨name, text⟩, hmem, hname⟩ := List.mem_map.mp hother
  obtain rfl : name = outer ++ "." ++ other := hname
  obtain ⟨members, hmembers⟩ : ∃ members, c.members.lookup outer = some members := by
    cases hnone : c.members.lookup outer with
    | some members => exact ⟨members, rfl⟩
    | none =>
      have hempty := lookup_members c outer
      have hlookup := lookup_membersOf houter c other
      rw [hnone, Option.getD_none] at hempty
      rw [← hempty, lookup_of_mem hkeys hmem] at hlookup
      cases hlookup
  have hall : members = c.membersOf outer := by rw [← lookup_members, hmembers, Option.getD_some]
  have hbound : (c.members.map fun p => (p.1, Value.ofNamed p.2)).lookup outer =
      some (.ofNamed members) := by
    refine lookup_of_mem ?_ (List.mem_map_of_mem (mem_of_lookup hmembers))
    rw [List.map_map]
    exact (increasing_members c).nodup_keys
  rw [bindings, List.lookup_append, hbound, hall]
  rfl

/-- The value of a member is the text with the dotted name, if there is one. -/
theorem value_member (inner : String) :
    (Expr.member (.var outer) inner).value [[], c.bindings] =
      .ok (((c.lookup (outer ++ "." ++ inner)).map .str).getD .undefined) := by
  have hfind : Scope.find [[], c.bindings] outer = .ofNamed (c.membersOf outer) := by
    rw [Scope.find, List.findSome?_cons, List.lookup_nil, List.findSome?_cons,
      lookup_bindings_members houter hkeys hother]
    rfl
  have hreverse : (c.membersOf outer).reverse = Context.membersOf c.reverse outer :=
    (List.filterMap_reverse ..).symm
  have hmember : (Value.ofNamed (c.membersOf outer)).member inner =
      ((c.lookup (outer ++ "." ++ inner)).map .str).getD .undefined := by
    rw [Value.member_ofNamed, hreverse, lookup_membersOf houter, lookup_reverse hkeys]
  rw [Expr.value, Expr.value, hfind, ← hmember]
  rfl

end Bound

end Context

/-- The template that outputs the date of the document is read as such. -/
theorem read_dateCreated :
    Template.read "\x7b\x7b document.date_created \x7d\x7d" =
      .ok ⟨[.output (.member (.var "document") "date_created")]⟩ := by
  have hscan : Token.scan "\x7b\x7b document.date_created \x7d\x7d".toList =
      [.outputStart, .name "document", .symbol ".", .name "date_created", .outputEnd] := rfl
  have hword : "document" ∉ keywords := by decide
  refine read_of_readExpr hscan ?_
  refine readExpr_of_readSigned (n := 4) (ends_outputEnd []) (atWord_not_name hword _)
    (fun fuel => ?_) (by simp [readingFuel])
  rw [readSigned, readSign_name hword]
  rfl

end Template

end Dossier
