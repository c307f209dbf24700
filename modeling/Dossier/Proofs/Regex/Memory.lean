import Dossier.Proofs.Regex.Matches

/-!
# What the search remembers

The search never tries a choice twice at one place of the text. This loses no match: a remembered
pair of a choice and a place is *dead*, what can be reached from it has failed already. The proof
goes over a node with what has to follow as a parameter.

* `Node.Dead` : a relation that holds of the pairs from which a match cannot be completed;
* `Tells` : a search finds the preferred one of some matches, or remembers dead pairs only;
* `Node.RunTells` : the search from a place tells of the matches that what follows can complete;
  one lemma for each kind of node;
* `Node.run_tells` : it does if the bodies of loops have no choices and always take a character
  (`Node.Flat`);
* `search_eq_leftmost` : then the search in a text finds the leftmost preferred match.
-/

namespace Dossier.Regex

/-! ## Dead pairs -/

section Dead

variable (text : List Char)

/-- The pairs of a choice with a place are those at which a condition holds. -/
def Marks (dead : Nat × Nat → Prop) (choice : Nat) (condition : Cursor → Prop) : Prop :=
  ∀ p, p.In text → (dead (choice, p.offset) ↔ condition p)

/-- The dead pairs of a node: no match from there can be completed, given the places at which what
follows fails. -/
def Node.Dead (dead : Nat × Nat → Prop) : Node → (Cursor → Prop) → Prop
  | .empty, _ | .set _, _ | .look _, _ => True
  | .seq a b, fails =>
    a.Dead dead (fun p => ∀ m ∈ b.finds p, fails m.1) ∧ b.Dead dead fails
  | .alt choice a b, fails =>
    Marks text dead choice (fun p => ∀ m ∈ a.finds p ++ b.finds p, fails m.1) ∧
      a.Dead dead fails ∧ b.Dead dead fails
  | .opt choice _ body, fails =>
    Marks text dead choice (fun p => (∀ m ∈ body.finds p, fails m.1) ∧ fails p) ∧
      body.Dead dead fails
  | .plus choice greedy body, fails | .star choice greedy body, fails =>
    Marks text dead choice fun p =>
      ∀ m ∈ repeats body.finds greedy (p.rest.length + 1) p, fails m.1
  | .group _ body, fails => body.Dead dead fails

variable {text}

theorem Marks.congr {dead dead' : Nat × Nat → Prop} {choice : Nat} {condition : Cursor → Prop}
    (h : Marks text dead choice condition) (he : ∀ q, q.1 = choice → (dead q ↔ dead' q)) :
    Marks text dead' choice condition := by
  intro p hp
  rw [← he _ rfl]
  exact h p hp

/-- Being the dead pairs of a node says nothing about other choices. -/
theorem Node.Dead.congr {dead dead' : Nat × Nat → Prop} {node : Node} {fails : Cursor → Prop}
    (h : node.Dead text dead fails) (he : ∀ q, q.1 ∈ node.choices → (dead q ↔ dead' q)) :
    node.Dead text dead' fails := by
  induction node generalizing fails with
  | empty | set _ | look _ => trivial
  | seq a b iha ihb =>
    simp only [choices, List.mem_append] at he
    exact ⟨iha h.1 fun q hq => he q (.inl hq), ihb h.2 fun q hq => he q (.inr hq)⟩
  | alt choice a b iha ihb =>
    simp only [choices, List.mem_cons, List.mem_append] at he
    exact ⟨h.1.congr fun q hq => he q (.inl hq), iha h.2.1 fun q hq => he q (.inr (.inl hq)),
      ihb h.2.2 fun q hq => he q (.inr (.inr hq))⟩
  | opt choice greedy body ih =>
    simp only [choices, List.mem_cons] at he
    exact ⟨h.1.congr fun q hq => he q (.inl hq), ih h.2 fun q hq => he q (.inr hq)⟩
  | plus choice greedy body ih | star choice greedy body ih =>
    simp only [choices, List.mem_cons] at he
    exact Marks.congr h fun q hq => he q (.inl hq)
  | group index body ih => exact ih h he

/-- A relation can be made to mark a choice, and stays as it is at all others. -/
theorem exists_marks (text : List Char) (dead : Nat × Nat → Prop) (choice : Nat)
    (condition : Cursor → Prop) :
    ∃ dead', (∀ q, q.1 ≠ choice → (dead q ↔ dead' q)) ∧ Marks text dead' choice condition := by
  refine ⟨fun q => if q.1 = choice then ∀ p, p.In text → p.offset = q.2 → condition p else dead q,
    fun q hq => by simp [hq], fun p hp => ?_⟩
  simp only [if_true]
  constructor
  · intro h
    exact h p hp rfl
  · intro h q hq he
    rwa [hq.eq_of_offset hp he]

/-- A node whose choices have numbers of their own has dead pairs. -/
theorem Node.exists_dead (text : List Char) (node : Node) (fails : Cursor → Prop)
    (h : node.choices.Nodup) (dead : Nat × Nat → Prop) :
    ∃ dead', (∀ q, q.1 ∉ node.choices → (dead q ↔ dead' q)) ∧ node.Dead text dead' fails := by
  induction node generalizing fails dead with
  | empty | set _ | look _ => exact ⟨dead, fun _ _ => Iff.rfl, trivial⟩
  | seq a b iha ihb =>
    simp only [choices, List.nodup_append] at h
    obtain ⟨ha, hb, hab⟩ := h
    obtain ⟨d₁, he₁, h₁⟩ := iha (fun p => ∀ m ∈ b.finds p, fails m.1) ha dead
    obtain ⟨d₂, he₂, h₂⟩ := ihb fails hb d₁
    refine ⟨d₂, fun q hq => ?_, h₁.congr fun q hq => he₂ q fun hq' => hab _ hq _ hq' rfl, h₂⟩
    simp only [choices, List.mem_append, not_or] at hq
    rw [he₁ q hq.1, he₂ q hq.2]
  | alt choice a b iha ihb =>
    simp only [choices, List.nodup_cons, List.mem_append, not_or, List.nodup_append] at h
    obtain ⟨⟨hca, hcb⟩, ha, hb, hab⟩ := h
    obtain ⟨d₁, he₁, h₁⟩ := iha fails ha dead
    obtain ⟨d₂, he₂, h₂⟩ := ihb fails hb d₁
    obtain ⟨d₃, he₃, h₃⟩ := exists_marks text d₂ choice fun p =>
      ∀ m ∈ a.finds p ++ b.finds p, fails m.1
    have h₁' := h₁.congr fun q hq => he₂ q fun hq' => hab _ hq _ hq' rfl
    refine ⟨d₃, fun q hq => ?_, h₃, h₁'.congr fun q hq => he₃ q fun e => hca (e ▸ hq),
      h₂.congr fun q hq => he₃ q fun e => hcb (e ▸ hq)⟩
    simp only [choices, List.mem_cons, List.mem_append, not_or] at hq
    rw [he₁ q hq.2.1, he₂ q hq.2.2, he₃ q hq.1]
  | opt choice greedy body ih =>
    simp only [choices, List.nodup_cons] at h
    obtain ⟨d₁, he₁, h₁⟩ := ih fails h.2 dead
    obtain ⟨d₂, he₂, h₂⟩ := exists_marks text d₁ choice fun p =>
      (∀ m ∈ body.finds p, fails m.1) ∧ fails p
    refine ⟨d₂, fun q hq => ?_, h₂, h₁.congr fun q hq => he₂ q fun e => h.1 (e ▸ hq)⟩
    simp only [choices, List.mem_cons, not_or] at hq
    rw [he₁ q hq.2, he₂ q hq.1]
  | plus choice greedy body ih | star choice greedy body ih =>
    obtain ⟨d, he, h'⟩ := exists_marks text dead choice fun p =>
      ∀ m ∈ repeats body.finds greedy (p.rest.length + 1) p, fails m.1
    refine ⟨d, fun q hq => he q fun e => hq ?_, h'⟩
    simp [choices, e]
  | group index body ih => exact ih fails h dead

end Dead

/-! ## Searches -/

/-- What a search has to say about matches in order of preference: the preferred one with the
captures so far, or that there is none, and then it has remembered dead pairs of its scope only. -/
def Tells (dead scope : Nat × Nat → Prop) (captured : Captures) (tried : Tried)
    (found : List Found) (o : Outcome) : Prop :=
  match found with
  | [] => o.1 = none ∧ ∀ q ∈ o.2, q ∈ tried ∨ (scope q ∧ dead q)
  | m :: _ => o.1 = some (m.1, m.2 ++ captured)

/-- What is remembered of a scope is dead. -/
def Sound (dead scope : Nat × Nat → Prop) (tried : Tried) : Prop :=
  ∀ q ∈ tried, scope q → dead q

section Search

variable {dead scope scope' : Nat × Nat → Prop} {captured : Captures} {tried : Tried}

theorem Sound.mono (h : Sound dead scope tried) (hs : ∀ q, scope' q → scope q) :
    Sound dead scope' tried := fun q hq hq' => h q hq (hs q hq')

theorem Tells.mono {found : List Found} {o : Outcome}
    (h : Tells dead scope captured tried found o) (hs : ∀ q, scope q → scope' q) :
    Tells dead scope' captured tried found o := by
  cases found with
  | nil => exact ⟨h.1, fun q hq => (h.2 q hq).imp_right fun hd => ⟨hs q hd.1, hd.2⟩⟩
  | cons m found => exact h

/-- After a failure the memory is as sound as before. -/
theorem Sound.of_tells {o : Outcome} (h : Sound dead scope tried)
    (ht : Tells dead scope' captured tried [] o) : Sound dead scope o.2 := by
  intro q hq hs
  rcases ht.2 q hq with hq' | hd
  · exact h q hq' hs
  · exact hd.2

/-- Two searches one after the other tell of the matches of both. -/
theorem tells_orElse {found found' : List Found} {first : Outcome} {second : Tried → Outcome}
    (h : Tells dead scope captured tried found first)
    (h' : found = [] → Tells dead scope captured first.2 found' (second first.2)) :
    Tells dead scope captured tried (found ++ found') (first.orElse second) := by
  obtain ⟨result, tried'⟩ := first
  cases found with
  | cons m found =>
    simp only [Tells] at h
    subst h
    rfl
  | nil =>
    have h2 := h' rfl
    obtain ⟨hn, ht⟩ := h
    simp only at hn ht h2
    subst hn
    simp only [Outcome.orElse, List.nil_append]
    cases found' with
    | cons m found' => exact h2
    | nil =>
      refine ⟨h2.1, fun q hq => ?_⟩
      rcases h2.2 q hq with hq | hd
      · exact ht q hq
      · exact .inr hd

/-- Two searches in order of preference, each of which may start with any sound memory. -/
theorem tells_prefer {greedy : Bool} {many few : List Found} {more less : Tried → Outcome}
    (hs : Sound dead scope tried)
    (hm : ∀ t, Sound dead scope t → Tells dead scope captured t many (more t))
    (hl : ∀ t, Sound dead scope t → Tells dead scope captured t few (less t)) :
    Tells dead scope captured tried (if greedy then many ++ few else few ++ many)
      (prefer greedy more less tried) := by
  cases greedy with
  | true =>
    have h := hm tried hs
    exact tells_orElse h fun he => hl _ (hs.of_tells (he ▸ h))
  | false =>
    have h := hl tried hs
    exact tells_orElse h fun he => hm _ (hs.of_tells (he ▸ h))

/-- A search that is made once at most tells of its matches if its pair is marked as dead exactly
when there are none. The scope of what it does inside leaves out the pair itself. -/
theorem tells_once (scope' : Nat × Nat → Prop) {found : List Found} {choice offset : Nat}
    {go : Tried → Outcome}
    (hd : dead (choice, offset) ↔ found = []) (hmem : scope (choice, offset))
    (hinner : ∀ q, scope' q → scope q ∧ q ≠ (choice, offset)) (hs : Sound dead scope tried)
    (hgo : ∀ t, Sound dead scope' t → Tells dead scope' captured t found (go t)) :
    Tells dead scope captured tried found (once choice offset go tried) := by
  unfold once
  split
  · rename_i hc
    have hempty := hd.mp (hs _ (Std.HashSet.contains_iff_mem.mp hc) hmem)
    subst hempty
    exact ⟨rfl, fun q hq => .inl hq⟩
  · have hs' : Sound dead scope' (tried.insert (choice, offset)) := by
      intro q hq hq'
      obtain ⟨hq1, hq2⟩ := hinner q hq'
      rcases Std.HashSet.mem_insert.mp hq with he | hq
      · exact absurd (eq_of_beq he).symm hq2
      · exact hs q hq hq1
    have h := hgo _ hs'
    cases found with
    | cons m found => exact h
    | nil =>
      refine ⟨h.1, fun q hq => ?_⟩
      rcases h.2 q hq with hq | hq
      · rcases Std.HashSet.mem_insert.mp hq with he | hq
        · rw [← eq_of_beq he]
          exact .inr ⟨hmem, hd.mpr rfl⟩
        · exact .inl hq
      · exact .inr ⟨(hinner q hq.1).1, hq.2⟩

end Search

/-! ## The search from a place -/

section Run

variable {text : List Char} {dead : Nat × Nat → Prop}

/-- The pairs that a search may try: those of what follows, and the given choices at places that
are not before an offset. -/
def reach (choices : List Nat) (offset : Nat) (after : Nat × Nat → Prop) : Nat × Nat → Prop :=
  fun q => after q ∨ (q.1 ∈ choices ∧ offset ≤ q.2)

/-- A continuation tells of the matches of what follows at the ends of some matches. -/
def Goes (dead after : Nat × Nat → Prop) (ends : List Found) (next : Continuation)
    (rest : Cursor → List Found) : Prop :=
  ∀ m ∈ ends, ∀ captured tried, Sound dead after tried →
    Tells dead after captured tried (rest m.1) (next m.1 captured tried)

theorem reach_mono {cs cs' : List Nat} {offset offset' : Nat} {after : Nat × Nat → Prop}
    (hc : ∀ c ∈ cs, c ∈ cs') (ho : offset' ≤ offset) {q : Nat × Nat}
    (h : reach cs offset after q) : reach cs' offset' after q :=
  h.imp_right fun hq => ⟨hc _ hq.1, Nat.le_trans ho hq.2⟩

/-- What may be tried after a choice leaves out the choice itself at its place. -/
theorem reach_inner {cs : List Nat} {choice offset : Nat} {after : Nat × Nat → Prop}
    (hc : choice ∉ cs) (hafter : ∀ q, after q → q.1 ≠ choice) (q : Nat × Nat)
    (h : reach cs offset after q) :
    reach (choice :: cs) offset after q ∧ q ≠ (choice, offset) := by
  refine ⟨reach_mono (fun _ => List.mem_cons_of_mem _) (Nat.le_refl _) h, ?_⟩
  rintro rfl
  rcases h with h | h
  · exact hafter _ h rfl
  · exact hc h.1

/-- What follows a match tells of its own matches. -/
theorem Goes.tells {after : Nat × Nat → Prop} {ends : List Found} {next : Continuation}
    {rest : Cursor → List Found} (h : Goes dead after ends next rest) {m : Found} (hm : m ∈ ends)
    {cs : List Nat} {offset : Nat} (captured : Captures) {tried : Tried}
    (hs : Sound dead (reach cs offset after) tried) :
    Tells dead (reach cs offset after) captured tried (rest m.1) (next m.1 captured tried) :=
  (h m hm captured tried (hs.mono fun _ hq => .inl hq)).mono fun _ hq => .inl hq

/-- A node without choices has nothing that could be dead. -/
theorem Node.dead_of_choices_eq_nil {node : Node} (h : node.choices = [])
    (fails : Cursor → Prop) : node.Dead text dead fails := by
  obtain ⟨dead', -, hd⟩ := node.exists_dead text fails (by simp [h]) dead
  exact hd.congr fun q hq => by simp [h] at hq

/-- What is said of the matches of a part holds of the whole search, a search from the part with
what follows. -/
def Node.RunTells (text : List Char) (dead : Nat × Nat → Prop) (node : Node) : Prop :=
  ∀ (next : Continuation) (rest : Cursor → List Found) (after : Nat × Nat → Prop) (p : Cursor),
    node.Dead text dead (fun q => rest q = []) → (∀ q, after q → q.1 ∉ node.choices) →
    p.In text → Goes dead after (node.finds p) next rest →
    ∀ captured tried, Sound dead (reach node.choices p.offset after) tried →
      Tells dead (reach node.choices p.offset after) captured tried
        (followedBy (node.finds p) rest) (node.run next p captured tried)

theorem followedBy_repeats {body : Cursor → List Found} (greedy : Bool)
    (hbody : ∀ place, ∀ m ∈ body place, m.1.rest.length < place.rest.length)
    (rest : Cursor → List Found) (p : Cursor) :
    followedBy (repeats body greedy (p.rest.length + 1) p) rest =
      if greedy then
        followedBy (body p) (fun q =>
          followedBy (repeats body greedy (q.rest.length + 1) q) rest) ++ rest p
      else
        rest p ++ followedBy (body p) fun q =>
          followedBy (repeats body greedy (q.rest.length + 1) q) rest := by
  have hmore :
      followedBy (body p) (fun q => followedBy (repeats body greedy p.rest.length q) rest) =
        followedBy (body p) fun q => followedBy (repeats body greedy (q.rest.length + 1) q) rest :=
    followedBy_congr fun m hm => by
      rw [repeats_bound hbody (hbody p m hm) (Nat.lt_succ_self _)]
  rw [← hmore, repeats]
  cases greedy with
  | true => simp [followedBy_assoc, followedBy_single]
  | false =>
    simp only [Bool.false_eq_true, if_false]
    rw [← List.singleton_append, followedBy_append, followedBy_single, followedBy_assoc]

/-- Going on with further copies of a body that takes a character each time. The induction is on
the bound, which stays above the number of characters that are left. -/
theorem again_tells {body : Node} {choice : Nat} {greedy : Bool} {next : Continuation}
    {rest : Cursor → List Found} {after : Nat × Nat → Prop} (hc : body.choices = [])
    (hbody : ∀ place, ∀ m ∈ body.finds place, m.1.rest.length < place.rest.length)
    (hrun : body.RunTells text dead) (hafter : ∀ q, after q → q.1 ≠ choice)
    (hdead : Marks text dead choice fun p =>
      ∀ m ∈ repeats body.finds greedy (p.rest.length + 1) p, rest m.1 = [])
    (bound : Nat) (p : Cursor) (hp : p.In text) (hb : p.rest.length < bound)
    (hnext : Goes dead after (repeats body.finds greedy (p.rest.length + 1) p) next rest)
    (captured : Captures) (tried : Tried)
    (hs : Sound dead (reach [choice] p.offset after) tried) :
    Tells dead (reach [choice] p.offset after) captured tried
      (followedBy (repeats body.finds greedy (p.rest.length + 1) p) rest)
      (again body.run choice greedy next bound p captured tried) := by
  induction bound generalizing p captured tried with
  | zero => omega
  | succ bound ih =>
    have hmem : ∀ m ∈ body.finds p, ∀ n ∈ repeats body.finds greedy (m.1.rest.length + 1) m.1,
        (n.1, n.2 ++ m.2) ∈ repeats body.finds greedy (p.rest.length + 1) p := by
      intro m hm n hn
      rw [repeats_bound hbody (Nat.lt_succ_self _) (hbody p m hm)] at hn
      exact mem_repeats_succ.mpr (.inl (mem_followedBy.mpr ⟨m, hm, n, hn, rfl⟩))
    have hself : (p, []) ∈ repeats body.finds greedy (p.rest.length + 1) p :=
      mem_repeats_succ.mpr (.inr rfl)
    refine tells_once (reach [choice] (p.offset + 1) after) ?_ (.inr ⟨by simp, by simp⟩)
      ?_ hs fun t ht => ?_
    · rw [hdead p hp, followedBy_eq_nil]
    · rintro ⟨c, o⟩ (hq | ⟨hq, ho⟩)
      · exact ⟨.inl hq, fun e => hafter _ hq (Prod.mk.inj e).1⟩
      · refine ⟨.inr ⟨hq, by omega⟩, fun e => ?_⟩
        have := (Prod.mk.inj e).2
        simp only at ho
        omega
    rw [followedBy_repeats greedy hbody]
    refine tells_prefer ht (fun t ht => ?_) fun t ht => ?_
    · -- One more copy: what follows it starts at a later place, where the pair does not count.
      have hgoes : Goes dead (reach [choice] (p.offset + 1) after) (body.finds p)
          (again body.run choice greedy next bound)
          (fun q => followedBy (repeats body.finds greedy (q.rest.length + 1) q) rest) := by
        intro m hm captured tried hs
        obtain ⟨hin, -⟩ := body.within_finds text p hp m hm
        have hlt := hbody p m hm
        have h1 := hp.offset_add_length
        have h2 := hin.offset_add_length
        have hsub : ∀ q, reach [choice] m.1.offset after q →
            reach [choice] (p.offset + 1) after q :=
          fun _ => reach_mono (fun _ hc => hc) (by omega)
        refine Tells.mono (ih m.1 hin (by omega) ?_ captured tried (hs.mono hsub)) hsub
        exact fun n hn => hnext (n.1, n.2 ++ m.2) (hmem m hm n hn)
      have h := hrun _ _ _ p (Node.dead_of_choices_eq_nil hc _) (by simp [hc]) hp hgoes captured t
        (ht.mono fun q hq => hq.elim id fun hq => by simp [hc] at hq)
      exact h.mono fun q hq => hq.elim id fun hq => by simp [hc] at hq
    · exact hnext.tells hself captured ht

namespace Node.RunTells

variable {a b body : Node}

/-- A node that has one match at most, from which the search goes on. -/
theorem one {node : Node}
    (h : ∀ p, (∃ q, node.finds p = [(q, [])] ∧ ∀ next, node.run next p = next q) ∨
      (node.finds p = [] ∧ ∀ next captured tried, node.run next p captured tried = (none, tried))) :
    node.RunTells text dead := by
  intro next rest after p _ _ _ hgo captured tried hs
  rcases h p with ⟨q, hfinds, hrun⟩ | ⟨hfinds, hrun⟩
  · rw [hfinds, followedBy_single, hrun]
    exact hgo.tells (hfinds ▸ List.mem_singleton.mpr rfl) captured hs
  · rw [hfinds, hrun]
    exact ⟨rfl, fun q hq => .inl hq⟩

theorem seq (ha : a.RunTells text dead) (hb : b.RunTells text dead)
    (hnd : (Node.seq a b).choices.Nodup) : (Node.seq a b).RunTells text dead := by
  intro next rest after p hdead hafter hp hgo captured tried hs
  obtain ⟨-, -, hab⟩ := List.nodup_append.mp hnd
  simp only [choices, List.mem_append, not_or] at hafter
  have hgoes : Goes dead (reach b.choices p.offset after) (a.finds p) (b.run next)
      (fun q => followedBy (b.finds q) rest) := by
    intro m hm captured tried hs
    obtain ⟨hin, hle⟩ := a.within_finds text p hp m hm
    have hsub : ∀ q, reach b.choices m.1.offset after q → reach b.choices p.offset after q :=
      fun _ => reach_mono (fun _ hc => hc) hle
    refine Tells.mono (hb next rest after m.1 hdead.2 (fun q hq => (hafter q hq).2) hin
      (fun n hn => ?_) captured tried (hs.mono hsub)) hsub
    exact hgo (n.1, n.2 ++ m.2) (mem_followedBy.mpr ⟨m, hm, n, hn, rfl⟩)
  have hreach : ∀ q, reach a.choices p.offset (reach b.choices p.offset after) q ↔
      reach (choices (.seq a b)) p.offset after q := by
    intro q
    simp only [reach, choices, List.mem_append]
    grind
  rw [run, finds, followedBy_assoc]
  refine Tells.mono ?_ fun q hq => (hreach q).mp hq
  refine ha _ _ _ p ?_ ?_ hp hgoes captured tried (hs.mono fun q hq => (hreach q).mp hq)
  · simpa only [followedBy_eq_nil] using hdead.1
  · rintro q (hq | ⟨hq, -⟩)
    · exact (hafter q hq).1
    · exact fun hq' => hab _ hq' _ hq rfl

theorem alt {choice : Nat} (ha : a.RunTells text dead) (hb : b.RunTells text dead)
    (hnd : (Node.alt choice a b).choices.Nodup) : (Node.alt choice a b).RunTells text dead := by
  intro next rest after p hdead hafter hp hgo captured tried hs
  obtain ⟨hchoice, -⟩ := List.nodup_cons.mp hnd
  simp only [choices, List.mem_cons, List.mem_append, not_or] at hafter
  rw [run, finds]
  refine tells_once (reach (a.choices ++ b.choices) p.offset after) ?_
    (.inr ⟨.head _, Nat.le_refl _⟩) (reach_inner hchoice fun q hq => (hafter q hq).1) hs
    fun t ht => ?_
  · rw [hdead.1 p hp, followedBy_eq_nil]
  have hina : ∀ q, reach a.choices p.offset after q →
      reach (a.choices ++ b.choices) p.offset after q := fun _ =>
    reach_mono (fun _ => List.mem_append_left _) (Nat.le_refl _)
  have hinb : ∀ q, reach b.choices p.offset after q →
      reach (a.choices ++ b.choices) p.offset after q := fun _ =>
    reach_mono (fun _ => List.mem_append_right _) (Nat.le_refl _)
  have hfirst := Tells.mono (ha next rest after p hdead.2.1 (fun q hq => (hafter q hq).2.1) hp
    (fun m hm => hgo m (List.mem_append_left _ hm)) captured t (ht.mono hina)) hina
  rw [followedBy_append]
  refine tells_orElse hfirst fun he => ?_
  exact Tells.mono (hb next rest after p hdead.2.2 (fun q hq => (hafter q hq).2.2) hp
    (fun m hm => hgo m (List.mem_append_right _ hm)) captured _
    ((ht.of_tells (he ▸ hfirst)).mono hinb)) hinb

theorem opt {choice : Nat} {greedy : Bool} (hb : body.RunTells text dead)
    (hnd : (Node.opt choice greedy body).choices.Nodup) :
    (Node.opt choice greedy body).RunTells text dead := by
  intro next rest after p hdead hafter hp hgo captured tried hs
  obtain ⟨hchoice, -⟩ := List.nodup_cons.mp hnd
  simp only [choices, List.mem_cons, not_or] at hafter
  have hself : (p, []) ∈ finds (.opt choice greedy body) p := mem_finds_opt.mpr (.inr rfl)
  have hbody : ∀ m ∈ body.finds p, m ∈ finds (.opt choice greedy body) p :=
    fun _ hm => mem_finds_opt.mpr (.inl hm)
  have hlist : followedBy (finds (.opt choice greedy body) p) rest =
      if greedy then followedBy (body.finds p) rest ++ rest p
      else rest p ++ followedBy (body.finds p) rest := by
    cases greedy with
    | true => simp [finds, followedBy_single]
    | false =>
      simp only [finds, Bool.false_eq_true, if_false]
      rw [← List.singleton_append, followedBy_append, followedBy_single]
  rw [run]
  refine tells_once (reach body.choices p.offset after) ?_ (.inr ⟨.head _, Nat.le_refl _⟩)
    (reach_inner hchoice fun q hq => (hafter q hq).1) hs fun t ht => ?_
  · rw [hdead.1 p hp, hlist]
    cases greedy <;> simp [followedBy_eq_nil, and_comm]
  rw [hlist]
  refine tells_prefer ht (fun t ht => ?_) fun t ht => hgo.tells hself captured ht
  exact hb next rest after p hdead.2 (fun q hq => (hafter q hq).2) hp
    (fun m hm => hgo m (hbody m hm)) captured t ht

theorem plus {choice : Nat} {greedy : Bool} (hb : body.RunTells text dead)
    (hflat : (Node.plus choice greedy body).Flat) :
    (Node.plus choice greedy body).RunTells text dead := by
  intro next rest after p hdead hafter hp hgo captured tried hs
  obtain ⟨hc, -, hbody⟩ := hflat
  simp only [choices, List.mem_cons, not_or] at hafter
  have hbound : ∀ m ∈ body.finds p, repeats body.finds greedy (p.rest.length + 1) m.1 =
      repeats body.finds greedy (m.1.rest.length + 1) m.1 := by
    intro m hm
    have := hbody p m hm
    exact repeats_bound hbody (by omega) (by omega)
  have hgoes : Goes dead (reach [choice] p.offset after) (body.finds p)
      (again body.run choice greedy next (p.rest.length + 1))
      (fun q => followedBy (repeats body.finds greedy (q.rest.length + 1) q) rest) := by
    intro m hm captured tried hs
    obtain ⟨hin, hle⟩ := body.within_finds text p hp m hm
    have hlt := hbody p m hm
    have hsub : ∀ q, reach [choice] m.1.offset after q → reach [choice] p.offset after q :=
      fun _ => reach_mono (fun _ hc => hc) hle
    refine Tells.mono (again_tells hc hbody hb (fun q hq => (hafter q hq).1) hdead _ m.1 hin
      (by omega) (fun n hn => ?_) captured tried (hs.mono hsub)) hsub
    rw [← hbound m hm] at hn
    exact hgo (n.1, n.2 ++ m.2) (mem_followedBy.mpr ⟨m, hm, n, hn, rfl⟩)
  have hreach : ∀ q, reach body.choices p.offset (reach [choice] p.offset after) q ↔
      reach (choices (.plus choice greedy body)) p.offset after q := by
    simp [reach, choices, hc]
  have hlist : followedBy (finds (.plus choice greedy body) p) rest =
      followedBy (body.finds p) fun q =>
        followedBy (repeats body.finds greedy (q.rest.length + 1) q) rest := by
    rw [finds, followedBy_assoc]
    exact followedBy_congr fun m hm => by rw [hbound m hm]
  rw [run, hlist]
  refine Tells.mono (hb _ _ _ p (Node.dead_of_choices_eq_nil hc _) (by simp [hc]) hp hgoes
    captured tried (hs.mono fun q hq => (hreach q).mp hq)) fun q hq => (hreach q).mp hq

theorem star {choice : Nat} {greedy : Bool} (hb : body.RunTells text dead)
    (hflat : (Node.star choice greedy body).Flat) :
    (Node.star choice greedy body).RunTells text dead := by
  intro next rest after p hdead hafter hp hgo captured tried hs
  obtain ⟨hc, -, hbody⟩ := hflat
  simp only [choices, List.mem_cons, not_or, hc] at hafter hs ⊢
  exact again_tells hc hbody hb (fun q hq => (hafter q hq).1) hdead _ p hp (Nat.lt_succ_self _) hgo
    captured tried hs

theorem group {index : Nat} (hb : body.RunTells text dead) :
    (Node.group index body).RunTells text dead := by
  intro next rest after p hdead hafter hp hgo captured tried hs
  -- What follows the body captures one place more.
  let rest' : Cursor → List Found := fun q =>
    (rest q).map fun n => (n.1, n.2 ++ [(index, p.offset, q.offset)])
  have hlist : followedBy (finds (.group index body) p) rest =
      followedBy (body.finds p) rest' := by
    simp [followedBy, finds, rest', List.flatMap_map, List.map_map, Function.comp_def]
  rw [hlist, run]
  refine hb _ rest' after p ?_ hafter hp ?_ captured tried hs
  · have hfails : (fun q => rest' q = []) = fun q => rest q = [] := by simp [rest']
    rw [hfails]
    exact hdead
  · intro m hm captured tried hs
    have h := hgo (m.1, (index, p.offset, m.1.offset) :: m.2) (List.mem_map.mpr ⟨m, hm, rfl⟩)
      ((index, p.offset, m.1.offset) :: captured) tried hs
    simp only [rest'] at h ⊢
    cases hr : rest m.1 with
    | nil => simpa [hr, Tells] using h
    | cons n found => simpa [hr, Tells] using h

end Node.RunTells

/-- The search from a place tells of the matches from there. The induction is on the node, for
all that may follow. -/
theorem Node.run_tells (node : Node) (hflat : node.Flat) (hnd : node.choices.Nodup) :
    node.RunTells text dead := by
  induction node with
  | empty => exact RunTells.one fun p => .inl ⟨p, rfl, fun _ => rfl⟩
  | set s =>
    refine RunTells.one ?_
    rintro ⟨before, offset, chars⟩
    cases chars with
    | nil => exact .inr ⟨rfl, fun _ _ _ => rfl⟩
    | cons c chars =>
      simp only [finds, run]
      split
      · exact .inl ⟨_, rfl, fun _ => rfl⟩
      · exact .inr ⟨rfl, fun _ _ _ => rfl⟩
  | look l =>
    refine RunTells.one fun p => ?_
    simp only [finds, run]
    split
    · exact .inl ⟨p, rfl, fun _ => rfl⟩
    · exact .inr ⟨rfl, fun _ _ _ => rfl⟩
  | seq a b iha ihb =>
    obtain ⟨hna, hnb, -⟩ := List.nodup_append.mp hnd
    exact (iha hflat.1 hna).seq (ihb hflat.2 hnb) hnd
  | alt choice a b iha ihb =>
    obtain ⟨hna, hnb, -⟩ := List.nodup_append.mp (List.nodup_cons.mp hnd).2
    exact (iha hflat.1 hna).alt (ihb hflat.2 hnb) hnd
  | opt choice greedy body ih => exact (ih hflat (List.nodup_cons.mp hnd).2).opt hnd
  | plus choice greedy body ih => exact (ih hflat.2.1 (List.nodup_cons.mp hnd).2).plus hflat
  | star choice greedy body ih => exact (ih hflat.2.1 (List.nodup_cons.mp hnd).2).star hflat
  | group index body ih => exact (ih hflat hnd).group

end Run

/-! ## The search in a text -/

/-- The search for a match from one place, with dead pairs in its memory. -/
theorem accept_tells {text : List Char} {dead : Nat × Nat → Prop} {node : Node} (hflat : node.Flat)
    (hnd : node.choices.Nodup) (hdead : node.Dead text dead fun _ => False) {p : Cursor}
    (hp : p.In text) {tried : Tried} (ht : ∀ q ∈ tried, dead q) :
    Tells dead (reach node.choices p.offset fun _ => False) [] tried (node.finds p)
      (node.run accept p [] tried) := by
  have hgoes : Goes dead (fun _ => False) (node.finds p) accept fun q => [(q, [])] := by
    intro m _ captured tried _
    simp [Tells, accept]
  have h := node.run_tells hflat hnd accept _ _ p (by simpa using hdead) (fun _ h => h.elim) hp
    hgoes [] tried fun q hq _ => ht q hq
  rwa [followedBy_stop] at h

/-- The search from all places of a text in turn, with dead pairs in its memory. -/
theorem searchFrom_eq_leftmost {text : List Char} {dead : Nat × Nat → Prop} {node : Node}
    (hflat : node.Flat) (hnd : node.choices.Nodup) (hdead : node.Dead text dead fun _ => False)
    (rest : List Char) (before : Option Char) (offset : Nat)
    (hp : Cursor.In text ⟨before, offset, rest⟩) (tried : Tried) (ht : ∀ q ∈ tried, dead q) :
    searchFrom node before offset rest tried = node.leftmost before offset rest := by
  have h := accept_tells hflat hnd hdead hp ht
  induction rest generalizing before offset tried with
  | nil =>
    unfold searchFrom Node.leftmost
    generalize node.run accept ⟨before, offset, []⟩ [] tried = o at h ⊢
    obtain ⟨result, tried'⟩ := o
    cases hf : node.finds ⟨before, offset, []⟩ with
    | nil =>
      rw [hf] at h
      obtain rfl : result = none := h.1
      rfl
    | cons m found =>
      rw [hf] at h
      obtain rfl : result = some (m.1, m.2 ++ []) := h
      simp
  | cons c rest ih =>
    unfold searchFrom Node.leftmost
    generalize node.run accept ⟨before, offset, c :: rest⟩ [] tried = o at h ⊢
    obtain ⟨result, tried'⟩ := o
    cases hf : node.finds ⟨before, offset, c :: rest⟩ with
    | nil =>
      rw [hf] at h
      obtain rfl : result = none := h.1
      have ht' : ∀ q ∈ tried', dead q := fun q hq => (h.2 q hq).elim (ht q) And.right
      exact ih (some c) (offset + 1) hp.step tried' ht' (accept_tells hflat hnd hdead hp.step ht')
    | cons m found =>
      rw [hf] at h
      obtain rfl : result = some (m.1, m.2 ++ []) := h
      simp

/-- The search in a text finds the leftmost preferred match. -/
theorem search_eq_leftmost {t : Tree} (hflat : (Node.ofTree t 0).1.Flat) (text : List Char) :
    search t text = (Node.ofTree t 0).1.leftmost none 0 text := by
  obtain ⟨-, hnd, -⟩ := numbers_ofTree t 0
  obtain ⟨dead, -, hdead⟩ := Node.exists_dead text (Node.ofTree t 0).1 (fun _ => False) hnd
    fun _ => False
  exact searchFrom_eq_leftmost hflat hnd hdead text none 0 .start ∅ (by simp)

end Dossier.Regex
