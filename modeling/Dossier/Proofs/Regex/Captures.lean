import Dossier.Proofs.Regex.Matches

/-!
# What groups capture

A search that succeeds has gone through one of the matches of the expression, whatever it remembers
and whatever the bodies of its loops are. So what holds of all matches holds of what is found.

* `GoesOn` : a search that succeeds goes on from one of some matches; one lemma for each kind of
  node leads to `Node.run_goesOn`;
* `search_finds` : what is found in a text is a match of the expression at a place of the text;
* `Node.Spans` : a node has a match from one place of a text to another;
* `Tree.groupBodies` : the capture groups with their bodies;
* `Node.captured_spans` : what a group captured is a match of its body;
* `search_captures` : the same for what is found in a text.
-/

namespace Dossier.Regex

/-! ## Searches that succeed -/

/-- If a search succeeds it does so by what follows one of the given matches. -/
def GoesOn (found : List Found) (captured : Captures) (next : Continuation) (o : Outcome) : Prop :=
  ∀ r, o.1 = some r → ∃ m ∈ found, ∃ tried, (next m.1 (m.2 ++ captured) tried).1 = some r

section GoesOn

variable {found found' : List Found} {captured : Captures} {next : Continuation}

theorem GoesOn.mono {o : Outcome} (h : GoesOn found captured next o)
    (hsub : ∀ m ∈ found, m ∈ found') : GoesOn found' captured next o := by
  intro r hr
  obtain ⟨m, hm, hnext⟩ := h r hr
  exact ⟨m, hsub m hm, hnext⟩

/-- A search that fails. -/
theorem GoesOn.fails (tried : Tried) : GoesOn found captured next (none, tried) := by
  intro r hr
  cases hr

/-- A part that takes nothing. -/
theorem GoesOn.here (place : Cursor) (tried : Tried) :
    GoesOn [(place, [])] captured next (next place captured tried) := by
  intro r hr
  exact ⟨(place, []), List.mem_singleton_self _, tried, hr⟩

theorem GoesOn.orElse {o : Outcome} {second : Tried → Outcome} (h : GoesOn found captured next o)
    (h' : ∀ t, GoesOn found' captured next (second t)) :
    GoesOn (found ++ found') captured next (o.orElse second) := by
  obtain ⟨result, tried⟩ := o
  cases result with
  | some r => exact h.mono fun m hm => List.mem_append_left _ hm
  | none => exact (h' tried).mono fun m hm => List.mem_append_right _ hm

theorem GoesOn.prefer {greedy : Bool} {more less : Tried → Outcome} {tried : Tried}
    (hm : ∀ t, GoesOn found captured next (more t))
    (hl : ∀ t, GoesOn found' captured next (less t)) :
    GoesOn (if greedy then found ++ found' else found' ++ found) captured next
      (Regex.prefer greedy more less tried) := by
  cases greedy with
  | true => exact (hm tried).orElse hl
  | false => exact (hl tried).orElse hm

theorem GoesOn.once {choice offset : Nat} {go : Tried → Outcome} {tried : Tried}
    (h : ∀ t, GoesOn found captured next (go t)) :
    GoesOn found captured next (Regex.once choice offset go tried) := by
  unfold Regex.once
  split
  · exact .fails tried
  · exact h _

end GoesOn

/-- Every success of a node's search goes on from one of its matches. -/
def Node.RunGoesOn (node : Node) : Prop :=
  ∀ (next : Continuation) (place : Cursor) (captured : Captures) (tried : Tried),
    GoesOn (node.finds place) captured next (node.run next place captured tried)

namespace Node.RunGoesOn

variable {a b body : Node}

/-- A match of one part and then one of what follows. -/
theorem followedBy (ha : a.RunGoesOn) {finds : Cursor → List Found} {run next : Continuation}
    (hrun : ∀ place captured tried, GoesOn (finds place) captured next (run place captured tried))
    (place : Cursor) (captured : Captures) (tried : Tried) :
    GoesOn (Regex.followedBy (a.finds place) finds) captured next
      (a.run run place captured tried) := by
  intro r hr
  obtain ⟨m, hm, tried', hr'⟩ := ha run place captured tried r hr
  obtain ⟨n, hn, tried'', hr''⟩ := hrun m.1 (m.2 ++ captured) tried' r hr'
  refine ⟨(n.1, n.2 ++ m.2), mem_followedBy.mpr ⟨m, hm, n, hn, rfl⟩, tried'', ?_⟩
  rw [List.append_assoc]
  exact hr''

/-- Further copies of a body. -/
theorem again (hbody : body.RunGoesOn) (choice : Nat) (greedy : Bool) (next : Continuation)
    (bound : Nat) (place : Cursor) (captured : Captures) (tried : Tried) :
    GoesOn (repeats body.finds greedy bound place) captured next
      (Regex.again body.run choice greedy next bound place captured tried) := by
  induction bound generalizing place captured tried with
  | zero => exact .fails tried
  | succ bound ih =>
    exact GoesOn.once fun _ => GoesOn.prefer (fun t => hbody.followedBy ih place captured t)
      fun t => .here place t

theorem set (s : CharSet) : (Node.set s).RunGoesOn := by
  intro next place captured tried
  obtain ⟨before, offset, rest⟩ := place
  cases rest with
  | nil => exact .fails tried
  | cons c rest =>
    simp only [Node.run, Node.finds]
    split
    · intro r hr
      exact ⟨_, List.mem_singleton_self _, tried, hr⟩
    · exact .fails tried

theorem look (l : Look) : (Node.look l).RunGoesOn := by
  intro next place captured tried
  simp only [Node.run, Node.finds]
  split
  · exact .here place tried
  · exact .fails tried

theorem alt (ha : a.RunGoesOn) (hb : b.RunGoesOn) (choice : Nat) :
    (Node.alt choice a b).RunGoesOn := fun next place captured _ =>
  GoesOn.once fun t => (ha next place captured t).orElse fun t => hb next place captured t

theorem opt (h : body.RunGoesOn) (choice : Nat) (greedy : Bool) :
    (Node.opt choice greedy body).RunGoesOn := fun next place captured _ =>
  GoesOn.once fun _ => GoesOn.prefer (fun t => h next place captured t) fun t => .here place t

theorem group (h : body.RunGoesOn) (index : Nat) : (Node.group index body).RunGoesOn := by
  intro next place captured tried r hr
  obtain ⟨m, hm, tried', hr'⟩ := h _ place captured tried r hr
  exact ⟨_, List.mem_map_of_mem hm, tried', hr'⟩

end Node.RunGoesOn

/-- A search that succeeds has gone through one of the matches of the node. -/
theorem Node.run_goesOn (node : Node) : node.RunGoesOn := by
  induction node with
  | empty => exact fun _ place _ tried => .here place tried
  | set s => exact .set s
  | look l => exact .look l
  | seq a b iha ihb => exact fun next => iha.followedBy (ihb next)
  | alt choice a b iha ihb => exact iha.alt ihb choice
  | opt choice greedy body ih => exact ih.opt choice greedy
  | plus choice greedy body ih =>
    exact fun next place => ih.followedBy (ih.again choice greedy next _) place
  | star choice greedy body ih => exact fun next place => ih.again choice greedy next _ place
  | group index body ih => exact ih.group index

/-- A search that succeeds at a place has found one of the matches from there. -/
theorem Node.finds_of_run {node : Node} {place : Cursor} {tried tried' : Tried} {found : Found}
    (h : node.run accept place [] tried = (some found, tried')) : found ∈ node.finds place := by
  obtain ⟨m, hm, t, ht⟩ := node.run_goesOn accept place [] tried found (by rw [h])
  rw [List.append_nil] at ht
  exact Option.some.inj ht ▸ hm

theorem searchFrom_finds {node : Node} {text : List Char} {before : Option Char} {offset : Nat}
    {rest : List Char} {tried : Tried} {found : Match}
    (h : searchFrom node before offset rest tried = some found)
    (hplace : Cursor.In text ⟨before, offset, rest⟩) :
    ∃ place : Cursor, place.In text ∧ ∃ m ∈ node.finds place,
      found = ⟨place.offset, m.1.offset, m.2⟩ := by
  have hhere : ∀ {m : Found} {tried' : Tried},
      node.run accept ⟨before, offset, rest⟩ [] tried = (some m, tried') →
        ∃ place : Cursor, place.In text ∧ ∃ m' ∈ node.finds place,
          (⟨offset, m.1.offset, m.2⟩ : Match) = ⟨place.offset, m'.1.offset, m'.2⟩ :=
    fun hrun => ⟨_, hplace, _, Node.finds_of_run hrun, rfl⟩
  induction rest generalizing before offset tried with
  | nil =>
    unfold searchFrom at h
    split at h
    · rename_i hrun
      exact Option.some.inj h ▸ hhere hrun
    · cases h
  | cons c rest ih =>
    unfold searchFrom at h
    split at h
    · rename_i hrun
      exact Option.some.inj h ▸ hhere hrun
    · exact ih h hplace.step fun hrun => ⟨_, hplace.step, _, Node.finds_of_run hrun, rfl⟩

/-- What is found in a text is a match of the expression at a place of the text. -/
theorem search_finds {t : Tree} {text : List Char} {found : Match}
    (h : search t text = some found) :
    ∃ place : Cursor, place.In text ∧ ∃ m ∈ (Node.ofTree t 0).1.finds place,
      found = ⟨place.offset, m.1.offset, m.2⟩ := searchFrom_finds h .start

/-! ## Groups with their bodies -/

/-- The capture groups with their names and bodies, in the order in which they open. -/
def Tree.groupBodies : Tree → List (Nat × Option String × Tree)
  | .empty | .set _ | .look _ => []
  | .seq a b | .alt a b => a.groupBodies ++ b.groupBodies
  | .rep _ _ _ body => body.groupBodies
  | .group index name body => (index, name, body) :: body.groupBodies

theorem Tree.groups_eq (t : Tree) : t.groups = t.groupBodies.map fun g => (g.1, g.2.1) := by
  induction t with
  | empty | set _ | look _ => rfl
  | seq a b iha ihb | alt a b iha ihb => rw [groups, groupBodies, List.map_append, iha, ihb]
  | rep min max greedy body ih => exact ih
  | group index name body ih => rw [groups, groupBodies, List.map_cons, ih]

/-- The groups of a node with their bodies. A group that was copied stands there once for each
copy. -/
def Node.groupBodies : Node → List (Nat × Node)
  | .empty | .set _ | .look _ => []
  | .seq a b | .alt _ a b => a.groupBodies ++ b.groupBodies
  | .opt _ _ body | .plus _ _ body | .star _ _ body => body.groupBodies
  | .group index body => (index, body) :: body.groupBodies

/-- A numbering gives nodes the groups of a tree and no others. -/
def Unrolls (t : Tree) (f : Nat → Node × Nat) : Prop :=
  ∀ n, ∀ g ∈ (f n).1.groupBodies, ∃ name body k,
    (g.1, name, body) ∈ t.groupBodies ∧ g.2 = (Node.ofTree body k).1

namespace Unrolls

variable {t t' : Tree} {f last : Nat → Node × Nat}

theorem mono (h : Unrolls t f) (hsub : ∀ g ∈ t.groupBodies, g ∈ t'.groupBodies) :
    Unrolls t' f := by
  intro n g hg
  obtain ⟨name, body, k, hbody, hnode⟩ := h n g hg
  exact ⟨name, body, k, hsub _ hbody, hnode⟩

theorem seq (hf : Unrolls t f) (hl : Unrolls t last) :
    Unrolls t fun n => (.seq (f n).1 (last (f n).2).1, (last (f n).2).2) := by
  intro n g hg
  exact (List.mem_append.mp hg).elim (hf n g) (hl (f n).2 g)

/-- A loop or an option around a part. -/
theorem wrap (hf : Unrolls t f) (around : Nat → Node → Node)
    (ha : ∀ n node, (around n node).groupBodies = node.groupBodies) (k : Nat) :
    Unrolls t fun n => (around n (f (n + k)).1, (f (n + k)).2) := by
  intro n g hg
  rw [ha] at hg
  exact hf (n + k) g hg

theorem copies (hf : Unrolls t f) (hl : Unrolls t last) (k : Nat) :
    Unrolls t (Node.copies f k last) := by
  induction k with
  | zero => exact hl
  | succ k ih => exact hf.seq ih

theorem optionalCopies (hf : Unrolls t f) (greedy : Bool) (k : Nat) :
    Unrolls t (Node.optionalCopies f greedy k) := by
  induction k with
  | zero => exact fun _ _ hg => absurd hg (List.not_mem_nil)
  | succ k ih => exact fun n => hf.seq ih (n + 1)

end Unrolls

/-- The groups of an unrolled tree are those of the tree. -/
theorem unrolls_ofTree (t : Tree) : Unrolls t (Node.ofTree t) := by
  induction t with
  | empty | set _ | look _ => exact fun _ _ hg => absurd hg (List.not_mem_nil)
  | seq a b iha ihb =>
    exact (iha.mono fun _ h => List.mem_append_left _ h).seq
      (ihb.mono fun _ h => List.mem_append_right _ h)
  | alt a b iha ihb =>
    exact fun n => ((iha.mono fun _ h => List.mem_append_left _ h).seq
      (ihb.mono fun _ h => List.mem_append_right _ h)) (n + 1)
  | group index name body ih =>
    intro n g hg
    rcases List.mem_cons.mp hg with rfl | hg
    · exact ⟨name, body, n, List.mem_cons_self, rfl⟩
    · obtain ⟨name', body', k, hbody, hnode⟩ := ih n g hg
      exact ⟨name', body', k, List.mem_cons_of_mem _ hbody, hnode⟩
  | rep min max greedy body ih =>
    have h : Unrolls (.rep min max greedy body) (Node.ofTree body) := ih
    rcases max with _ | max
    · rcases min with _ | min
      · intro n
        by_cases htakes : body.alwaysTakes = true
        · rw [Node.ofTree, if_pos htakes]
          exact h.wrap (fun n node => .star n greedy node) (fun _ _ => rfl) 1 n
        · rw [Node.ofTree, if_neg htakes]
          exact h.wrap (fun n node => .opt n greedy (.plus (n + 1) greedy node))
            (fun _ _ => rfl) 2 n
      · exact h.copies (h.wrap (fun n node => .plus n greedy node) (fun _ _ => rfl) 1) min
    · rcases min with _ | min
      · exact h.copies (h.optionalCopies greedy max) 0
      · exact h.copies (h.optionalCopies greedy (max - (min + 1))) (min + 1)

/-! ## Captured places -/

/-- The node has a match from one place of the text to another. -/
def Node.Spans (node : Node) (text : List Char) (start stop : Nat) : Prop :=
  ∃ place : Cursor, place.In text ∧ place.offset = start ∧
    ∃ m ∈ node.finds place, m.1.offset = stop

/-- The tree has a match from one place of the text to another. -/
def Tree.Spans (t : Tree) (text : List Char) (start stop : Nat) : Prop :=
  ∃ n, (Node.ofTree t n).1.Spans text start stop

/-- Each captured place lies inside of the match, and the body of its group, one of the given
ones, has a match there. -/
def Fills (text : List Char) (bodies : List (Nat × Node)) (finds : Cursor → List Found) : Prop :=
  ∀ p, p.In text → ∀ m ∈ finds p, ∀ g ∈ m.2,
    p.offset ≤ g.2.1 ∧ g.2.1 ≤ g.2.2 ∧ g.2.2 ≤ m.1.offset ∧
      ∃ body, (g.1, body) ∈ bodies ∧ body.Spans text g.2.1 g.2.2

section Fills

variable {text : List Char} {bodies bodies' : List (Nat × Node)} {finds next : Cursor → List Found}

theorem Fills.mono (h : Fills text bodies finds) (hsub : ∀ g ∈ bodies, g ∈ bodies') :
    Fills text bodies' finds := by
  intro p hp m hm g hg
  obtain ⟨h1, h2, h3, body, hbody, hspans⟩ := h p hp m hm g hg
  exact ⟨h1, h2, h3, body, hsub _ hbody, hspans⟩

/-- Matches without captures. -/
theorem Fills.of_nil (h : ∀ p, ∀ m ∈ finds p, m.2 = []) : Fills text bodies finds := by
  intro p _ m hm g hg
  rw [h p m hm] at hg
  cases hg

theorem Fills.followedBy (hf : Fills text bodies finds) (hw : Within text finds)
    (hn : Fills text bodies next) (hwn : Within text next) :
    Fills text bodies fun p => Regex.followedBy (finds p) next := by
  intro p hp m hm g hg
  obtain ⟨a, ha, b, hb, rfl⟩ := mem_followedBy.mp hm
  obtain ⟨hin, hle⟩ := hw p hp a ha
  have hle' := (hwn a.1 hin b hb).2
  rcases List.mem_append.mp hg with hg | hg
  · obtain ⟨h1, h2, h3, hbody⟩ := hn a.1 hin b hb g hg
    exact ⟨Nat.le_trans hle h1, h2, h3, hbody⟩
  · obtain ⟨h1, h2, h3, hbody⟩ := hf p hp a ha g hg
    exact ⟨h1, h2, Nat.le_trans h3 hle', hbody⟩

theorem Fills.repeats (hf : Fills text bodies finds) (hw : Within text finds) (greedy : Bool)
    (bound : Nat) : Fills text bodies (Regex.repeats finds greedy bound) := by
  induction bound with
  | zero => exact fun _ _ _ hm => absurd hm (List.not_mem_nil)
  | succ bound ih =>
    intro p hp m hm
    rcases mem_repeats_succ.mp hm with h | rfl
    · exact hf.followedBy hw ih (within_repeats hw greedy bound) p hp m h
    · exact fun _ hg => absurd hg (List.not_mem_nil)

end Fills

/-- What a group captured is a match of its body. -/
theorem Node.captured_spans (text : List Char) (node : Node) :
    Fills text node.groupBodies node.finds := by
  induction node with
  | empty | look _ => exact .of_nil fun p m hm => by simp_all [finds]
  | set s =>
    refine .of_nil fun p m hm => ?_
    obtain ⟨before, offset, rest⟩ := p
    cases rest with
    | nil => cases hm
    | cons c rest => simp_all [finds]
  | seq a b iha ihb =>
    exact (iha.mono fun _ h => List.mem_append_left _ h).followedBy (a.within_finds text)
      (ihb.mono fun _ h => List.mem_append_right _ h) (b.within_finds text)
  | alt choice a b iha ihb =>
    intro p hp m hm
    rcases List.mem_append.mp hm with h | h
    · exact (iha.mono fun _ h => List.mem_append_left _ h) p hp m h
    · exact (ihb.mono fun _ h => List.mem_append_right _ h) p hp m h
  | opt choice greedy body ih =>
    intro p hp m hm
    rcases mem_finds_opt.mp hm with h | rfl
    · exact ih p hp m h
    · exact fun _ hg => absurd hg (List.not_mem_nil)
  | plus choice greedy body ih =>
    intro p hp m hm
    exact ih.followedBy (body.within_finds text) (ih.repeats (body.within_finds text) greedy _)
      (within_repeats (body.within_finds text) greedy _) p hp m hm
  | star choice greedy body ih =>
    intro p hp m hm
    exact ih.repeats (body.within_finds text) greedy _ p hp m hm
  | group index body ih =>
    intro p hp m hm g hg
    obtain ⟨a, ha, rfl⟩ := List.mem_map.mp hm
    rcases List.mem_cons.mp hg with rfl | hg
    · exact ⟨Nat.le_refl _, (body.within_finds text p hp a ha).2, Nat.le_refl _, body,
        List.mem_cons_self, p, hp, rfl, a, ha, rfl⟩
    · exact (ih.mono fun _ h => List.mem_cons_of_mem _ h) p hp a ha g hg

/-- What a group captured of a text lies inside of the match that was found, and the body of the
group has a match there. -/
theorem search_captures {t : Tree} {text : List Char} {found : Match}
    (h : search t text = some found) {g : Nat × Nat × Nat} (hg : g ∈ found.captures) :
    found.start ≤ g.2.1 ∧ g.2.1 ≤ g.2.2 ∧ g.2.2 ≤ found.stop ∧ found.stop ≤ text.length ∧
      ∃ name body, (g.1, name, body) ∈ t.groupBodies ∧ body.Spans text g.2.1 g.2.2 := by
  obtain ⟨place, hplace, m, hm, rfl⟩ := search_finds h
  obtain ⟨h1, h2, h3, node, hnode, hspans⟩ := Node.captured_spans text _ place hplace m hm g hg
  obtain ⟨name, body, k, hbody, heq⟩ := unrolls_ofTree t 0 _ hnode
  have hstop := ((Node.ofTree t 0).1.within_finds text place hplace m hm).1.offset_add_length
  refine ⟨h1, h2, h3, by simp only; omega, name, body, hbody, k, ?_⟩
  exact heq ▸ hspans

end Dossier.Regex
