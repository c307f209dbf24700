import Dossier.Proofs.Entries
import Dossier.Proofs.Expression.Matching
import Dossier.Proofs.Regex.Captures
import Dossier.Proofs.Regex.Numbering

/-!
# Where values stand

What an expression finds is reported twice: as values under the names of groups, in the order of
the names, and as places in the order in which the groups open. Groups that took no part in the
match are left out of both. This holds of every expression, with groups in loops, in alternatives
and in other groups.

* `Compiled.participants` : the named groups that took part in a match;
* `GroupMatch.Shows` : a place cuts a value out of a text;
* `Compiled.Reports` : what is known of the place that is reported for a group;
* `Compiled.captured_participants` : places are reported for these groups, in their order;
* `find_increasing`, `find_names` : the names of the values of a match;
* `find_places` : the places cut the values out of the text.
-/

namespace Dossier

open Regex

/-- The named groups that took part in a match, in the order in which they open. -/
def Compiled.participants (c : Compiled) (m : Match) : List (Nat × String) :=
  c.tree.namedGroups.filter fun g => (m.captures.lookup g.1).isSome

/-- A place cuts the value under a name out of a text. -/
structure GroupMatch.Shows (found : GroupMatch) (text name : String) (place : Nat × Nat) :
    Prop where
  ordered : place.1 ≤ place.2
  inside : place.2 ≤ text.length
  value : ∃ value, found.values.lookup name = some value ∧
    (text.toList.drop place.1).take (place.2 - place.1) = value.toList

/-- What is known of the place in a text that is reported for a group. -/
structure Compiled.Reports (c : Compiled) (text : String) (m : Match) (found : GroupMatch)
    (group : Nat × String) (place : Nat × Nat) : Prop where
  /-- It is what the group captured last in the match. -/
  captured : m.captures.lookup group.1 = some place
  /-- The body of the group has a match there. -/
  matched : ∃ body, (group.1, some group.2, body) ∈ c.tree.groupBodies ∧
    body.Spans text.toList place.1 place.2
  /-- It cuts the value of the group out of the text. -/
  shows : found.Shows text group.2 place

namespace Compiled

variable {c : Compiled}

/-- The groups whose captures are reported are those that took part. -/
theorem captured_participants (c : Compiled) (m : Match) :
    List.Forall₂ (fun g p => p.1 = g.2 ∧ m.captures.lookup g.1 = some p.2)
      (c.participants m) (c.captured m) := by
  unfold participants captured
  induction c.tree.namedGroups with
  | nil => exact .nil
  | cons g groups ih =>
    cases hg : m.captures.lookup g.1 with
    | none => simpa [hg] using ih
    | some place => simpa [hg] using ih

/-- The names of the values, in the order in which their groups open. -/
theorem captured_names (c : Compiled) (m : Match) :
    (c.captured m).map Prod.fst = (c.participants m).map Prod.snd := by
  have h : List.Forall₂ (· = ·) ((c.participants m).map Prod.snd) ((c.captured m).map Prod.fst) :=
    List.forall₂_map_left_iff.mpr (List.forall₂_map_right_iff.mpr
      ((c.captured_participants m).imp fun _ _ hp => hp.1.symm))
  rw [List.forall₂_eq_eq_eq] at h
  exact h.symm

theorem participants_names (c : Compiled) (m : Match) :
    ((c.participants m).map Prod.snd).Sublist c.groupNames := List.filter_sublist.map _

/-- What is known of the groups of an expression that was read. -/
theorem groups_of_compile {e : Expression} {limit : Nat} (h : e.compile limit = .ok c) :
    Increasing c.tree.groups ∧ c.groupNames.Nodup := by
  obtain ⟨-, -, hread, -⟩ := compile_ok h
  obtain ⟨hgroups, hnames⟩ := read_numbered hread
  refine ⟨hgroups, ?_⟩
  unfold groupNames Tree.namedGroups
  rw [List.map_filterMap]
  simpa [Option.map_map, Function.comp_def] using hnames

end Compiled

/-! ## Values -/

section

variable {c : Compiled} {text : String} {found : GroupMatch}

/-- Each name stands once among the values of a match. -/
theorem find_increasing (h : c.find text = some found) : Increasing found.values := by
  obtain ⟨m, -, rfl⟩ := Option.map_eq_some_iff.mp h
  exact increasing_entriesOf _

/-- The names of the values of a match are those of groups. -/
theorem find_names (h : c.find text = some found) {name : String}
    (hname : name ∈ found.values.map Prod.fst) : name ∈ c.groupNames := by
  obtain ⟨m, -, rfl⟩ := Option.map_eq_some_iff.mp h
  obtain ⟨p, hp, rfl⟩ := List.mem_map.mp hname
  obtain ⟨g, hg, rfl⟩ := List.mem_map.mp (mem_of_mem_entriesOf hp)
  refine (c.participants_names m).subset ?_
  rw [← c.captured_names m]
  exact List.mem_map_of_mem hg

end

/-! ## Places -/

section

variable {c : Compiled} {text : String} {m : Match} {found : GroupMatch}

/-- The values of a match whose groups have names of their own. -/
theorem Compiled.values_perm (hnames : c.groupNames.Nodup)
    (hvalues : found.values = entriesOf ((c.captured m).map fun g => (g.1, cut text.toList g.2))) :
    found.values.Perm ((c.captured m).map fun g => (g.1, cut text.toList g.2)) := by
  rw [hvalues]
  refine entriesOf_perm ?_
  rw [List.map_map]
  show ((c.captured m).map Prod.fst).Nodup
  rw [c.captured_names m]
  exact hnames.sublist (c.participants_names m)

/-- The place that a group captured is reported for it. -/
theorem Compiled.reports_of_lookup (hgroups : Increasing c.tree.groups)
    (hm : search c.tree text.toList = some m) (hkeys : (found.values.map Prod.fst).Nodup)
    (hperm : found.values.Perm ((c.captured m).map fun g => (g.1, cut text.toList g.2)))
    {group : Nat × String} (hgroup : group ∈ c.tree.namedGroups) {place : Nat × Nat}
    (hplace : m.captures.lookup group.1 = some place) : c.Reports text m found group place := by
  obtain ⟨-, hordered, hstop, hlength, name, body, hbody, hspans⟩ :=
    search_captures hm (mem_of_lookup hplace)
  refine ⟨hplace, ⟨body, ?_, hspans⟩, hordered, ?_, cut text.toList place, ?_, ?_⟩
  · -- A number stands for one group only, so this is the body of the group with the name.
    have hnamed : (group.1, some group.2) ∈ c.tree.groups := by
      obtain ⟨g, hg, hgname⟩ := List.mem_filterMap.mp hgroup
      obtain ⟨_, hsome, rfl⟩ := Option.map_eq_some_iff.mp hgname
      exact hsome ▸ hg
    have hname : (group.1, name) ∈ c.tree.groups := by
      rw [Tree.groups_eq]
      exact List.mem_map_of_mem hbody
    have heq := lookup_of_mem hgroups.nodup_keys hnamed
    rw [lookup_of_mem hgroups.nodup_keys hname] at heq
    exact Option.some.inj heq ▸ hbody
  · exact Nat.le_trans hstop (String.length_toList ▸ hlength)
  · have hcaptured : (group.2, place) ∈ c.captured m :=
      List.mem_filterMap.mpr ⟨group, hgroup, by rw [hplace]; rfl⟩
    exact lookup_of_mem hkeys (hperm.mem_iff.mpr (List.mem_map.mpr ⟨_, hcaptured, rfl⟩))
  · rw [cut, String.toList_ofList]

end

/-- Whatever an expression finds, there is a place for each value and a value for each place. The
places belong to the groups that took part, in the order in which they open, and each one cuts the
value of its group out of the text. -/
theorem find_places {e : Expression} {limit : Nat} {c : Compiled} (h : e.compile limit = .ok c)
    {text : String} {found : GroupMatch} (hfind : c.find text = some found) :
    ∃ m, search c.tree text.toList = some m ∧
      List.Forall₂ (c.Reports text m found) (c.participants m) found.positions ∧
      Increasing c.tree.groups ∧
      found.positions.length = found.values.length ∧
      (found.values.map Prod.fst).Perm ((c.participants m).map Prod.snd) ∧
      found.values.map Prod.fst ⊆ c.groupNames := by
  obtain ⟨hgroups, hnames⟩ := Compiled.groups_of_compile h
  obtain ⟨m, hm, hfound⟩ := Option.map_eq_some_iff.mp hfind
  have hpositions : found.positions = (c.captured m).map Prod.snd := by rw [← hfound]
  have hperm : found.values.Perm _ := Compiled.values_perm hnames (by rw [← hfound])
  have hkeys := (find_increasing hfind).nodup_keys
  refine ⟨m, hm, ?_, hgroups, ?_, ?_, fun _ => find_names hfind⟩
  · obtain ⟨hlength, hzip⟩ := List.forall₂_iff_zip.mp (c.captured_participants m)
    rw [hpositions]
    refine List.forall₂_map_right_iff.mpr (List.forall₂_iff_zip.mpr ⟨hlength, fun hmem => ?_⟩)
    have hgroup := List.mem_of_mem_filter (List.of_mem_zip hmem).1
    exact Compiled.reports_of_lookup hgroups hm hkeys hperm hgroup (hzip hmem).2
  · rw [hpositions, hperm.length_eq, List.length_map, List.length_map]
  · have h := hperm.map Prod.fst
    rw [List.map_map] at h
    exact c.captured_names m ▸ h

/-- A group that may be left out, a letter, and a group behind it. -/
def letterTree : Tree :=
  .seq (.rep 0 (some 1) true (.group 1 (some "before") (.set (.single 's'))))
    (.seq (.set (.single 'ß')) (.group 2 (some "after") (.rep 1 none true (.set .everything))))

theorem find_places_letter :
    let e : Expression := .regex "(?P<before>s)?ß(?P<after>.+)"
    let c : Compiled := ⟨e, e.text, letterTree⟩
    let found : GroupMatch := ⟨[("after", "en")], [(4, 6)]⟩
    e.compile 100000 = .ok c ∧ c.find "Größen" = some found ∧
      ∃ m, search c.tree "Größen".toList = some m ∧
        List.Forall₂ (c.Reports "Größen" m found) (c.participants m) found.positions := by
  intro e c found
  have hcompile : e.compile 100000 = .ok c := by
    have hread : Regex.compile e.text.toList 100000 = .ok letterTree := by decide +kernel
    simp only [Expression.compile, Expression.pattern, compilePattern, e, Expression.text] at hread ⊢
    rw [hread]
    rfl
  have hfind : c.find "Größen" = some found := by
    have hflat : (Node.ofTree letterTree 0).1.Flat :=
      ⟨⟨trivial, trivial⟩, trivial, Node.flat_loop_set _⟩
    unfold Compiled.find
    rw [search_eq_leftmost hflat]
    decide +kernel
  obtain ⟨m, hm, hplaces, -⟩ := find_places hcompile hfind
  exact ⟨hcompile, hfind, m, hm, hplaces⟩

end Dossier
