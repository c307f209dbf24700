import Dossier.Entries
import Dossier.Proofs.Regex.Lengths
import Dossier.Proofs.Regex.Reads
import Mathlib.Data.List.Nodup

/-!
# The numbers and names of groups

Groups get their numbers in the order in which they open, and no name is given to two of them. A
repetition that drops its body drops the groups in it, so that numbers may be missing, but what is
left stays in order.

* `Gives` : what is read has a property, if reading succeeds; one rule for each way to put readers
  together;
* `ReadState.groups` : the groups that have been opened so far;
* `ReadState.Numbered` : their numbers are in order, and their names differ; each step of reading
  keeps this (`ReadState.Numbered.step`), and so does a run of steps;
* `read_numbered` : the groups of an expression that is read.
-/

namespace Dossier.Regex

/-! ## Properties of what is read -/

/-- If reading succeeds, what is read has the property. -/
def Gives {α : Type} (x : Reading α) (post : α → Prop) : Prop := ∀ a, x = .ok a → post a

section Gives

variable {α β : Type} {x : Reading α} {f : α → Reading β} {mid : α → Prop} {post : β → Prop}

theorem Gives.ok {b : β} (h : post b) : Gives (.ok b) post := by
  intro a ha
  cases ha
  exact h

theorem Gives.fault {fault : Fault} : Gives (.error fault) post := by
  intro a ha
  cases ha

/-- A reader that goes on from what another one has read. -/
theorem Gives.bind (hx : Gives x mid) (hf : ∀ a, mid a → Gives (f a) post) :
    Gives (x >>= f) post := by
  cases x with
  | error e => exact .fault
  | ok a => exact hf a (hx a rfl)

/-- A reader of whose result nothing is needed. -/
theorem Gives.anything : Gives x fun _ => True := fun _ _ => trivial

end Gives

/-! ## Groups in the order in which they open -/

/-- The group that an open bracket will become. -/
def Opening.groups : Opening → List (Nat × Option String)
  | capture index name => [(index, name)]
  | whole | plain => []

/-- The groups in several parts. -/
def groupsOf (parts : List Part) : List (Nat × Option String) :=
  parts.flatMap fun p => p.tree.groups

/-- The groups of a level: the level itself if it is one, then those in it. -/
def Level.groups (l : Level) : List (Nat × Option String) :=
  l.opening.groups ++ (groupsOf l.alternatives.reverse ++ groupsOf l.parts.reverse)

/-- The groups that have been opened so far. -/
def ReadState.groups (st : ReadState) : List (Nat × Option String) :=
  st.outer.reverse.flatMap Level.groups ++ st.level.groups

theorem groups_altAll (trees : List Tree) :
    (Tree.altAll trees).groups = trees.flatMap Tree.groups := by
  induction trees with
  | nil => rfl
  | cons t trees ih =>
    cases trees with
    | nil => simp [Tree.altAll]
    | cons u trees => rw [List.flatMap_cons, ← ih]; rfl

/-- Repetition keeps the groups of its body, or drops them all. -/
theorem groups_repeated (min : Nat) (max : Option Nat) (greedy : Bool) (t : Tree) :
    (Tree.repeated min max greedy t).groups.Sublist t.groups := by
  unfold Tree.repeated
  generalize (if t.isBlind then Nat.min min 1 else min) = lo
  generalize (if t.isBlind then some ((max.getD 1).min 1) else max) = hi
  simp only
  split
  · exact List.nil_sublist _
  · split <;> exact List.Sublist.refl _

@[simp] theorem groupsOf_append (ps qs : List Part) :
    groupsOf (ps ++ qs) = groupsOf ps ++ groupsOf qs := List.flatMap_append

@[simp] theorem groupsOf_cons (p : Part) (ps : List Part) :
    groupsOf (p :: ps) = p.tree.groups ++ groupsOf ps := List.flatMap_cons

@[simp] theorem groupsOf_nil : groupsOf [] = [] := rfl

/-- What is left out of an alternative are parts that set flags. -/
theorem groups_alternative (l : Level) (stop : List Char) :
    (l.alternative stop).tree.groups.Sublist (groupsOf l.parts.reverse) := by
  show (Tree.seqAll _).groups.Sublist _
  rw [groups_seqAll]
  induction l.parts.reverse with
  | nil => exact List.Sublist.refl _
  | cons p ps ih =>
    rw [List.filterMap_cons]
    split
    · exact ih.trans (List.sublist_append_right _ _)
    · rename_i t ht
      obtain ⟨-, rfl⟩ : p.repeatable = true ∧ p.tree = t := by simpa using ht
      exact ih.append_left _

theorem groups_content (l : Level) (stop : List Char) :
    (l.content stop).tree.groups.Sublist
      (groupsOf l.alternatives.reverse ++ groupsOf l.parts.reverse) := by
  show (Tree.altAll _).groups.Sublist _
  rw [groups_altAll, List.flatMap_map, List.reverse_cons, List.flatMap_append]
  refine List.Sublist.append_left ?_ _
  simpa using groups_alternative l stop

/-! ## Steps of reading -/

/-- The groups that have been opened have their numbers in order, none beyond the last one given,
and names of their own, all of which are known. -/
structure ReadState.Numbered (st : ReadState) : Prop where
  order : Increasing st.groups
  bound : ∀ g ∈ st.groups, g.1 ≤ st.captures
  names : (st.groups.filterMap Prod.snd).Nodup
  known : ∀ name ∈ st.groups.filterMap Prod.snd, name ∈ st.names.map Prod.fst

namespace ReadState.Numbered

variable {st st' : ReadState}

theorem start (text : List Char) : (ReadState.start text).Numbered where
  order := .nil
  bound := by simp [ReadState.start, ReadState.groups, Level.groups, Opening.groups]
  names := .nil
  known := by simp [ReadState.start, ReadState.groups, Level.groups, Opening.groups]

/-- A step that opens no group may drop some. -/
theorem of_sublist (h : st.Numbered) (hg : st'.groups.Sublist st.groups)
    (hc : st'.captures = st.captures) (hn : st'.names = st.names) : st'.Numbered where
  order := h.order.sublist hg
  bound := fun g hmem => hc ▸ h.bound g (hg.subset hmem)
  names := h.names.sublist (hg.filterMap _)
  known := fun name hmem => hn ▸ h.known name ((hg.filterMap _).subset hmem)

/-- A group with the next number and a new name, or none. -/
theorem of_opened (h : st.Numbered) {name : Option String}
    (hg : st'.groups = st.groups ++ [(st.captures + 1, name)])
    (hc : st'.captures = st.captures + 1)
    (hnew : ∀ n ∈ name, n ∉ st.names.map Prod.fst)
    (hn : ∀ n, n ∈ st'.names.map Prod.fst ↔ n ∈ name ∨ n ∈ st.names.map Prod.fst) :
    st'.Numbered where
  order := by
    rw [hg]
    refine List.pairwise_append.mpr ⟨h.order, List.pairwise_singleton _ _, fun a ha b hb => ?_⟩
    have := h.bound a ha
    rw [List.mem_singleton.mp hb]
    show a.1 < st.captures + 1
    omega
  bound := by
    rw [hg, hc]
    intro g hmem
    rcases List.mem_append.mp hmem with hmem | hmem
    · exact Nat.le_succ_of_le (h.bound g hmem)
    · exact Nat.le_of_eq (congrArg Prod.fst (List.mem_singleton.mp hmem))
  names := by
    rw [hg, List.filterMap_append]
    refine List.nodup_append.mpr ⟨h.names, ?_, fun a ha b hb => ?_⟩
    · cases name <;> simp
    · have hb' : b ∈ name := by cases name <;> simp_all
      rintro rfl
      exact hnew a hb' (h.known a ha)
  known := by
    rw [hg, List.filterMap_append]
    intro n hmem
    rw [hn]
    rcases List.mem_append.mp hmem with hmem | hmem
    · exact .inr (h.known n hmem)
    · exact .inl (by cases name <;> simp_all)

/-- One more part without groups. -/
theorem push (h : st.Numbered) {p : Part} (hp : p.tree.groups = []) (rest : List Char) :
    (st.push p rest).Numbered :=
  h.of_sublist (by simp [ReadState.groups, ReadState.push, Level.groups, Level.push, hp]) rfl rfl

theorem atom (h : st.Numbered) (start : List Char) (a : Atom) (rest : List Char) :
    Gives (st.atom start a rest) Numbered := by
  have htree : Gives (a.tree st.flags ⟨start, rest⟩) fun t => t.groups = [] := by
    unfold Atom.tree
    split
    · split
      · exact .fault
      · exact .ok rfl
    · exact .ok rfl
    · exact .ok rfl
    · split
      · exact .fault
      · split
        · exact .ok rfl
        · split <;> exact .ok rfl
  exact htree.bind fun t ht => .ok (h.push ht rest)

theorem charClass (h : st.Numbered) (start : List Char) : Gives (st.charClass start) Numbered :=
  Gives.anything.bind fun _ _ => .ok (h.push rfl _)

/-- The last part of the level, which is about to be repeated. -/
theorem lastPart (st : ReadState) (operator : List Char) :
    Gives (st.lastPart operator) fun r => st.level.parts = r.1 :: r.2 := by
  unfold ReadState.lastPart
  split
  · rename_i p parts hparts
    split
    · exact .ok hparts
    · exact .fault
  · exact .fault

theorem pushRepeated (h : st.Numbered) {p : Part} {parts : List Part}
    (hparts : st.level.parts = p :: parts) (min : Nat) (max : Option Nat) (lazy : Bool)
    (rest : List Char) : (st.pushRepeated p parts min max lazy rest).Numbered := by
  refine h.of_sublist ?_ rfl rfl
  simp only [ReadState.groups, ReadState.pushRepeated, Level.groups, hparts, List.reverse_cons,
    groupsOf_append, groupsOf_cons, groupsOf_nil, List.append_nil]
  have hrepeated := groups_repeated min max (lazy == st.flags.swapGreed) p.tree
  exact (((hrepeated.append_left _).append_left _).append_left _).append_left _

theorem repeatLast (h : st.Numbered) (operator : List Char) (min : Nat) (max : Option Nat) :
    Gives (st.repeatLast operator min max) Numbered :=
  (lastPart st operator).bind fun _ hparts => .ok (h.pushRepeated hparts _ _ _ _)

theorem repeatCounted (h : st.Numbered) (brace : List Char) :
    Gives (st.repeatCounted brace) Numbered := by
  refine (lastPart st brace).bind fun r hparts => Gives.anything.bind fun counts _ => ?_
  simp only
  split
  · split
    · exact .fault
    · exact .ok (h.pushRepeated hparts _ _ _ _)
  · exact .fault

theorem groups_openGroup (st : ReadState) (start : List Char) (opening : Opening) (flags : Flags)
    (rest : List Char) :
    (st.openGroup start opening flags rest).groups = st.groups ++ opening.groups := by
  simp [ReadState.groups, ReadState.openGroup, Level.groups]

theorem openNamed (h : st.Numbered) (start s : List Char) : Gives (st.openNamed start s) Numbered := by
  refine Gives.anything.bind fun r _ => ?_
  simp only
  split
  · exact .fault
  · split
    · exact .fault
    · rename_i hlookup
      refine .ok (h.of_opened (groups_openGroup _ _ _ _ _) rfl (fun n hn hmem => ?_) fun n => ?_)
      · obtain ⟨known, hknown, hname⟩ := List.mem_map.mp hmem
        have hne := List.lookup_eq_none_iff.mp hlookup known hknown
        rw [Option.mem_some_iff.mp hn, hname] at hne
        exact absurd hne (by simp)
      · simp [ReadState.openCapture, ReadState.openGroup, eq_comm]

theorem flagGroup (h : st.Numbered) (start mark s : List Char) :
    Gives (st.flagGroup start mark s) Numbered := by
  unfold ReadState.flagGroup
  split
  · exact .fault
  · refine Gives.anything.bind fun r _ => ?_
    simp only
    split
    · refine .ok (h.of_sublist ?_ rfl rfl)
      simp [groups_openGroup, Opening.groups]
    · split
      · exact .fault
      · exact .ok (h.of_sublist
          (by simp [ReadState.groups, Level.groups, Level.push, Tree.groups]) rfl rfl)

theorem group (h : st.Numbered) (start : List Char) : Gives (st.group start) Numbered := by
  unfold ReadState.group
  split
  · exact h.openNamed _ _
  · exact .fault
  · exact .fault
  · exact .fault
  · exact .fault
  · exact h.openNamed _ _
  · exact h.flagGroup _ _ _
  · exact .ok (h.of_opened (groups_openGroup _ _ _ _ _) rfl (by simp) (by simp [ReadState.openCapture, ReadState.openGroup]))

theorem closeGroup (h : st.Numbered) (bracket : List Char) :
    Gives (st.closeGroup bracket) Numbered := by
  unfold ReadState.closeGroup
  split
  · exact .fault
  · rename_i level outer houter
    have hcontent := groups_content st.level bracket
    refine .ok (h.of_sublist ?_ rfl rfl)
    have houter : st.groups = outer.reverse.flatMap Level.groups ++
        (level.groups ++ st.level.groups) := by
      simp [ReadState.groups, houter, List.flatMap_append]
    have hgroup : (st.level.opening.tree (st.level.content bracket).tree).groups.Sublist
        st.level.groups := by
      unfold Level.groups
      cases st.level.opening with
      | whole | plain => exact hcontent
      | capture index name => exact hcontent.cons_cons _
    rw [houter]
    refine List.Sublist.append_left ?_ _
    simp only [Level.groups, Level.push, List.reverse_cons, groupsOf_append, groupsOf_cons,
      groupsOf_nil, List.append_nil, List.append_assoc]
    exact ((hgroup.append_left _).append_left _).append_left _

theorem nextAlternative (h : st.Numbered) (bar : List Char) : (st.nextAlternative bar).Numbered := by
  refine h.of_sublist ?_ rfl rfl
  have halternative := groups_alternative st.level bar
  simp only [ReadState.groups, ReadState.nextAlternative, Level.groups, List.reverse_cons,
    groupsOf_append, groupsOf_cons, groupsOf_nil, List.append_nil, List.reverse_nil]
  exact ((halternative.append_left _).append_left _).append_left _

/-- A step of reading keeps the groups in order. -/
theorem step (h : st.Numbered) (c : Char) (rest : List Char) : Gives (st.step c rest) Numbered := by
  unfold ReadState.step
  split
  · exact h.group _
  · exact h.closeGroup _
  · exact .ok (h.nextAlternative _)
  · exact h.charClass _
  · exact h.repeatLast _ _ _
  · exact h.repeatLast _ _ _
  · exact h.repeatLast _ _ _
  · exact h.repeatCounted _
  · exact Gives.anything.bind fun _ _ => h.atom _ _ _
  · exact h.atom _ _ _
  · exact h.atom _ _ _
  · exact h.atom _ _ _
  · exact h.atom _ _ _

theorem run (h : st.Numbered) (bound : Nat) : Gives (st.run bound) Numbered := by
  induction bound generalizing st with
  | zero => exact .ok h
  | succ bound ih =>
    unfold ReadState.run
    split
    · exact .ok (h.of_sublist (List.Sublist.refl _) rfl rfl)
    · exact (h.step _ _).bind fun _ h' => ih h'

end ReadState.Numbered

/-- The tree of all that has been read has no groups but those that were opened. -/
theorem ReadState.groups_tree (st : ReadState) :
    Gives st.tree fun t => t.groups.Sublist st.groups := by
  unfold ReadState.tree
  split
  · simp only
    split
    · exact .fault
    · refine .ok ((groups_content st.level []).trans ?_)
      exact (List.sublist_append_right _ _).trans (List.sublist_append_right _ _)
  · exact .fault

/-- The groups of an expression have their numbers in the order in which they open, and no two of
them have the same name. -/
theorem read_numbered {text : List Char} {t : Tree} (h : Tree.read text = .ok t) :
    Increasing t.groups ∧ (t.groups.filterMap Prod.snd).Nodup := by
  have hread : Gives (Tree.read text) fun t =>
      Increasing t.groups ∧ (t.groups.filterMap Prod.snd).Nodup :=
    ((ReadState.Numbered.start text).run _).bind fun st hst t ht =>
      ⟨hst.order.sublist (st.groups_tree t ht),
        hst.names.sublist ((st.groups_tree t ht).filterMap _)⟩
  exact hread t h

end Dossier.Regex
