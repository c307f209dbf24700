import Dossier.Regex.Machine

/-!
# The matches of an expression in order of preference

The search tries the alternatives of each choice in order of preference. Here the same order is
written down without a search: the list of all matches from one place, the preferred one first.

* `Node.finds` : the matches of a node from a place; `followedBy`, `repeats` : its parts;
* `Node.leftmost` : the preferred match from the first place that has one;
* `repeats_bound` : a bound on copies beyond the characters that are left changes nothing;
* `Cursor.In` : the places of a text, each of which is known by its offset; matches end at such
  places (`Node.within_finds`);
* `numbers_ofTree` : the choices of an unrolled tree have numbers of their own.
-/

namespace Dossier.Regex

/-- A match of a part of an expression: where it ends, and what its groups captured, newest
first. -/
abbrev Found := Cursor × Captures

/-- The matches of one part and then of what follows. A match of what follows is preferred less
than any other one after a preferred match of the first part. -/
def followedBy (first : List Found) (next : Cursor → List Found) : List Found :=
  first.flatMap fun m => (next m.1).map fun n => (n.1, n.2 ++ m.2)

/-- The matches of any number of copies of a part. The bound is on the number of copies. -/
def repeats (body : Cursor → List Found) (greedy : Bool) : Nat → Cursor → List Found
  | 0, _ => []
  | bound + 1, place =>
    let more := followedBy (body place) (repeats body greedy bound)
    if greedy then more ++ [(place, [])] else (place, []) :: more

namespace Node

/-- The matches of a node from a place in order of preference. -/
def finds : Node → Cursor → List Found
  | .empty, place => [(place, [])]
  | .set s, place =>
    match place.rest with
    | [] => []
    | c :: rest => if s.contains c then [(⟨some c, place.offset + 1, rest⟩, [])] else []
  | .look l, place => if l.holds place.before place.rest.head? then [(place, [])] else []
  | .seq a b, place => followedBy (a.finds place) b.finds
  | .alt _ a b, place => a.finds place ++ b.finds place
  | .opt _ greedy body, place =>
    if greedy then body.finds place ++ [(place, [])] else (place, []) :: body.finds place
  | .plus _ greedy body, place =>
    followedBy (body.finds place) (repeats body.finds greedy (place.rest.length + 1))
  | .star _ greedy body, place => repeats body.finds greedy (place.rest.length + 1) place
  | .group index body, place =>
    (body.finds place).map fun m => (m.1, (index, place.offset, m.1.offset) :: m.2)

/-- The preferred match from the first place at or after the given one that has a match. -/
def leftmost (node : Node) (before : Option Char) (offset : Nat) : List Char → Option Match
  | [] => (node.finds ⟨before, offset, []⟩).head?.map fun m => ⟨offset, m.1.offset, m.2⟩
  | c :: rest =>
    match node.finds ⟨before, offset, c :: rest⟩ with
    | m :: _ => some ⟨offset, m.1.offset, m.2⟩
    | [] => node.leftmost (some c) (offset + 1) rest

/-- The numbers of the choices. -/
def choices : Node → List Nat
  | .empty | .set _ | .look _ => []
  | .seq a b => a.choices ++ b.choices
  | .alt choice a b => choice :: (a.choices ++ b.choices)
  | .opt choice _ body | .plus choice _ body | .star choice _ body => choice :: body.choices
  | .group _ body => body.choices

/-- The bodies of loops hold no choices, and each of their matches takes a character. -/
def Flat : Node → Prop
  | .empty | .set _ | .look _ => True
  | .seq a b | .alt _ a b => a.Flat ∧ b.Flat
  | .opt _ _ body | .group _ body => body.Flat
  | .plus _ _ body | .star _ _ body =>
    body.choices = [] ∧ body.Flat ∧
      ∀ place, ∀ m ∈ body.finds place, m.1.rest.length < place.rest.length

end Node

/-! ## Matches in a row -/

@[simp] theorem followedBy_append (a b : List Found) (next : Cursor → List Found) :
    followedBy (a ++ b) next = followedBy a next ++ followedBy b next := List.flatMap_append

theorem followedBy_single (place : Cursor) (next : Cursor → List Found) :
    followedBy [(place, [])] next = next place := by
  simp [followedBy]

theorem followedBy_stop (found : List Found) :
    followedBy found (fun place => [(place, [])]) = found := by
  simp [followedBy]

theorem followedBy_assoc (found : List Found) (next last : Cursor → List Found) :
    followedBy (followedBy found next) last =
      followedBy found fun place => followedBy (next place) last := by
  simp only [followedBy, List.flatMap_assoc, List.flatMap_map, List.map_flatMap, List.map_map]
  simp [Function.comp_def]

theorem mem_followedBy {found : List Found} {next : Cursor → List Found} {m : Found} :
    m ∈ followedBy found next ↔ ∃ a ∈ found, ∃ b ∈ next a.1, m = (b.1, b.2 ++ a.2) := by
  simp [followedBy, eq_comm]

theorem followedBy_eq_nil {found : List Found} {next : Cursor → List Found} :
    followedBy found next = [] ↔ ∀ m ∈ found, next m.1 = [] := by
  simp [followedBy]

theorem followedBy_congr {found : List Found} {next next' : Cursor → List Found}
    (h : ∀ m ∈ found, next m.1 = next' m.1) : followedBy found next = followedBy found next' := by
  unfold followedBy
  rw [List.flatMap_def, List.flatMap_def]
  congr 1
  exact List.map_congr_left fun m hm => by rw [h m hm]

theorem mem_repeats_succ {body : Cursor → List Found} {greedy : Bool} {bound : Nat} {place : Cursor}
    {m : Found} : m ∈ repeats body greedy (bound + 1) place ↔
      m ∈ followedBy (body place) (repeats body greedy bound) ∨ m = (place, []) := by
  cases greedy <;> simp [repeats, or_comm]

theorem Node.mem_finds_opt {choice : Nat} {greedy : Bool} {body : Node} {place : Cursor}
    {m : Found} : m ∈ (Node.opt choice greedy body).finds place ↔
      m ∈ body.finds place ∨ m = (place, []) := by
  cases greedy <;> simp [finds, or_comm]

/-- A bound on the copies beyond the characters that are left changes nothing if each copy takes a
character. -/
theorem repeats_bound {body : Cursor → List Found} {greedy : Bool}
    (hbody : ∀ place, ∀ m ∈ body place, m.1.rest.length < place.rest.length) :
    ∀ {bound bound' : Nat} {place : Cursor}, place.rest.length < bound →
      place.rest.length < bound' →
      repeats body greedy bound place = repeats body greedy bound' place
  | bound + 1, bound' + 1, place, h, h' => by
    have hmore : followedBy (body place) (repeats body greedy bound) =
        followedBy (body place) (repeats body greedy bound') :=
      followedBy_congr fun m hm => by
        have := hbody place m hm
        exact repeats_bound hbody (by omega) (by omega)
    simp only [repeats, hmore]

/-! ## Places of a text -/

/-- The places of a text. -/
inductive Cursor.In (text : List Char) : Cursor → Prop where
  | start : In text (Cursor.start text)
  | step {before : Option Char} {offset : Nat} {c : Char} {rest : List Char} :
    In text ⟨before, offset, c :: rest⟩ → In text ⟨some c, offset + 1, rest⟩

namespace Cursor.In

variable {text : List Char} {p q : Cursor}

/-- A place is known by its offset. -/
theorem eq_of_offset (hp : p.In text) (hq : q.In text) (h : p.offset = q.offset) : p = q := by
  induction hp generalizing q with
  | start =>
    cases hq with
    | start => rfl
    | step _ => simp [Cursor.start] at h
  | step _ ih =>
    cases hq with
    | start => simp [Cursor.start] at h
    | step hq' =>
      have := ih hq' (by simpa using h)
      simp_all

theorem offset_add_length (hp : p.In text) : p.offset + p.rest.length = text.length := by
  induction hp with
  | start => simp [Cursor.start]
  | step _ ih =>
    simp only [List.length_cons] at ih ⊢
    omega

end Cursor.In

/-- The matches of a part end at places of the text, no earlier than they start. -/
def Within (text : List Char) (matches' : Cursor → List Found) : Prop :=
  ∀ p, p.In text → ∀ m ∈ matches' p, m.1.In text ∧ p.offset ≤ m.1.offset

theorem Within.followedBy {text : List Char} {first next : Cursor → List Found}
    (hf : Within text first) (hn : Within text next) :
    Within text fun p => followedBy (first p) next := by
  intro p hp m hm
  obtain ⟨a, ha, b, hb, rfl⟩ := mem_followedBy.mp hm
  obtain ⟨ha1, ha2⟩ := hf p hp a ha
  obtain ⟨hb1, hb2⟩ := hn a.1 ha1 b hb
  exact ⟨hb1, Nat.le_trans ha2 hb2⟩

theorem within_repeats {text : List Char} {body : Cursor → List Found} (hb : Within text body)
    (greedy : Bool) (bound : Nat) : Within text (repeats body greedy bound) := by
  induction bound with
  | zero => simp [Within, repeats]
  | succ bound ih =>
    intro p hp m hm
    rcases mem_repeats_succ.mp hm with h | rfl
    · exact hb.followedBy ih p hp m h
    · exact ⟨hp, Nat.le_refl _⟩

theorem Node.within_finds (text : List Char) (node : Node) : Within text node.finds := by
  induction node with
  | empty =>
    intro p hp m hm
    simp only [finds, List.mem_singleton] at hm
    subst hm
    exact ⟨hp, Nat.le_refl _⟩
  | set s =>
    intro p hp m hm
    obtain ⟨before, offset, rest⟩ := p
    cases rest with
    | nil => simp [finds] at hm
    | cons c rest =>
      simp only [finds, List.mem_ite_nil_right, List.mem_singleton] at hm
      obtain ⟨-, rfl⟩ := hm
      exact ⟨hp.step, Nat.le_succ _⟩
  | look l =>
    intro p hp m hm
    simp only [finds, List.mem_ite_nil_right, List.mem_singleton] at hm
    obtain ⟨-, rfl⟩ := hm
    exact ⟨hp, Nat.le_refl _⟩
  | seq a b iha ihb => exact iha.followedBy ihb
  | alt choice a b iha ihb =>
    intro p hp m hm
    rcases List.mem_append.mp hm with h | h
    · exact iha p hp m h
    · exact ihb p hp m h
  | opt choice greedy body ih =>
    intro p hp m hm
    rcases mem_finds_opt.mp hm with h | rfl
    · exact ih p hp m h
    · exact ⟨hp, Nat.le_refl _⟩
  | plus choice greedy body ih =>
    intro p hp m hm
    exact ih.followedBy (within_repeats ih greedy _) p hp m hm
  | star choice greedy body ih =>
    intro p hp m hm
    exact within_repeats ih greedy _ p hp m hm
  | group index body ih =>
    intro p hp m hm
    obtain ⟨a, ha, rfl⟩ := List.mem_map.mp hm
    exact ih p hp a ha

/-! ## The numbers of choices -/

/-- A numbering gives choices the numbers from the given one up to the next free one, each once. -/
def Numbers (f : Nat → Node × Nat) : Prop :=
  ∀ n, n ≤ (f n).2 ∧ (f n).1.choices.Nodup ∧ ∀ c ∈ (f n).1.choices, n ≤ c ∧ c < (f n).2

namespace Numbers

theorem bare {node : Node} (h : node.choices = []) : Numbers fun n => (node, n) := by
  intro n
  simp [h]

/-- Two parts in a row. -/
theorem seq {f g : Nat → Node × Nat} (hf : Numbers f) (hg : Numbers g) :
    Numbers fun n => (.seq (f n).1 (g (f n).2).1, (g (f n).2).2) := by
  intro n
  obtain ⟨hf1, hf2, hf3⟩ := hf n
  obtain ⟨hg1, hg2, hg3⟩ := hg (f n).2
  simp only [Node.choices]
  refine ⟨Nat.le_trans hf1 hg1, ?_, fun c hc => ?_⟩
  · refine List.nodup_append.mpr ⟨hf2, hg2, fun a ha b hb => ?_⟩
    have := hf3 a ha
    have := hg3 b hb
    omega
  · rcases List.mem_append.mp hc with hc | hc
    · have := hf3 c hc
      omega
    · have := hg3 c hc
      omega

/-- A choice in front of a part. -/
theorem choice (wrap : Nat → Node → Node)
    (hw : ∀ n node, (wrap n node).choices = n :: node.choices) {f : Nat → Node × Nat}
    (hf : Numbers f) : Numbers fun n => (wrap n (f (n + 1)).1, (f (n + 1)).2) := by
  intro n
  obtain ⟨hf1, hf2, hf3⟩ := hf (n + 1)
  simp only [hw]
  refine ⟨by omega, List.nodup_cons.mpr ⟨fun h => ?_, hf2⟩, fun c hc => ?_⟩
  · have := hf3 n h
    omega
  · rcases List.mem_cons.mp hc with rfl | hc
    · omega
    · have := hf3 c hc
      omega

theorem opt {f : Nat → Node × Nat} (hf : Numbers f) (greedy : Bool) :
    Numbers fun n => (.opt n greedy (f (n + 1)).1, (f (n + 1)).2) :=
  choice (fun n node => .opt n greedy node) (fun _ _ => rfl) hf

theorem plus {f : Nat → Node × Nat} (hf : Numbers f) (greedy : Bool) :
    Numbers fun n => (.plus n greedy (f (n + 1)).1, (f (n + 1)).2) :=
  choice (fun n node => .plus n greedy node) (fun _ _ => rfl) hf

theorem copies {f last : Nat → Node × Nat} (hf : Numbers f) (hl : Numbers last) (k : Nat) :
    Numbers (Node.copies f k last) := by
  induction k with
  | zero => exact hl
  | succ k ih => exact hf.seq ih

theorem optionalCopies {f : Nat → Node × Nat} (hf : Numbers f) (greedy : Bool) (k : Nat) :
    Numbers (Node.optionalCopies f greedy k) := by
  induction k with
  | zero => exact bare rfl
  | succ k ih => exact (hf.seq ih).opt greedy

end Numbers

/-- The choices of an unrolled tree have numbers of their own. -/
theorem numbers_ofTree (t : Tree) : Numbers (Node.ofTree t) := by
  induction t with
  | empty | set _ | look _ => exact Numbers.bare rfl
  | seq a b iha ihb => exact iha.seq ihb
  | alt a b iha ihb =>
    intro n
    have h := (iha.seq ihb).opt true n
    simpa only [Node.choices, Node.ofTree] using h
  | group index name body ih =>
    intro n
    exact ih n
  | rep min max greedy body ih =>
    rcases max with _ | max
    · rcases min with _ | min
      · intro n
        unfold Node.ofTree
        split
        · exact Numbers.choice (fun n node => .star n greedy node) (fun _ _ => rfl) ih n
        · exact (ih.plus greedy).opt greedy n
      · exact ih.copies (ih.plus greedy) min
    · rcases min with _ | min
      · exact ih.copies (ih.optionalCopies greedy max) 0
      · exact ih.copies (ih.optionalCopies greedy (max - (min + 1))) (min + 1)

end Dossier.Regex
