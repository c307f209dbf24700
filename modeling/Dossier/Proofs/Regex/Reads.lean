import Dossier.Regex.Reader

/-!
# Reading parts of expressions

What reading a text adds to the group that is open, whatever stands around the text.

* `ReadState.Leads` : reading leads from one state to another in a number of steps;
* `Reads` : reading a text adds parts with given trees to the open group; it holds of texts in a
  row (`Reads.append`), under a repetition operator (`Reads.repeated`) and in a group
  (`Reads.plainGroup`);
* `Reads.inGroup` : an open group that is read to its end;
* `readClass_digitsAnd` : the classes of the digits and some more characters.
-/

namespace Dossier.Regex

/-! ## Character classes -/

/-- The ASCII digits and some more characters. -/
def digitsAnd (others : List Char) : CharSet :=
  others.foldl (fun s c => s.union (.single c)) (CharSet.empty.union (.range 0x30 0x39))

theorem contains_digitsAnd (others : List Char) (c : Char) :
    (digitsAnd others).contains c = (c.isDigit || others.contains c) := by
  have hfold : ∀ s : CharSet, (others.foldl (fun s c => s.union (.single c)) s).contains c =
      (s.contains c || others.contains c) := by
    induction others with
    | nil => simp
    | cons d others ih =>
      intro s
      simp only [List.foldl_cons, ih, CharSet.contains_union, CharSet.contains_single,
        List.contains_cons, Bool.or_assoc]
      rfl
  unfold digitsAnd
  rw [hfold, CharSet.contains_union, CharSet.contains_empty, Bool.false_or]
  congr 1
  simp only [CharSet.contains, CharSet.containsCode, CharSet.range, Char.isDigit]
  rw [Bool.eq_iff_iff]
  simp [UInt32.le_iff_toNat_le]

theorem isEmpty_digitsAnd (others : List Char) : (digitsAnd others).isEmpty = false := by
  have hfold : ∀ s : CharSet, s.isEmpty = false →
      (others.foldl (fun s c => s.union (.single c)) s).isEmpty = false := by
    induction others with
    | nil => simp
    | cons d others ih =>
      intro s hs
      exact ih _ (by simp [CharSet.isEmpty_union, hs])
  exact hfold _ (by rw [CharSet.isEmpty_union]; rfl)

/-- An entry of a class that starts with a plain character. -/
theorem readClassLoop_entry {bound : Nat} {frames : List ClassFrame} {l : ClassList} {c : Char}
    {s rest : List Char} {part : ClassPart} (hc : c ∉ ['[', ']', '&', '-', '~'])
    (h : readEntry {} (unclosedClass frames) (c :: s) = .ok (part, rest)) :
    readClassLoop {} (bound + 1) frames l (c :: s) =
      readClassLoop {} bound frames (l.add part) rest := by
  simp only [List.mem_cons, List.not_mem_nil, or_false, not_or] at hc
  rw [readClassLoop]
  simp only [Flags.skip, Bool.false_eq_true, if_false]
  split <;> simp_all [bind, Except.bind]

/-- The end of a class around which there is none. -/
theorem readClassLoop_close (bound : Nat) (opening : Span) (around l : ClassList)
    (rest : List Char) :
    readClassLoop {} (bound + 1) [.opened false opening around] l (']' :: rest) =
      .ok (⟨l.members, .wrap ⟨opening.start, rest⟩ l.toPart.nesting, ⟨opening.start, rest⟩⟩,
        rest) := by
  rw [readClassLoop]
  rfl

/-- A character as an entry of a class. -/
theorem readEntry_char (fault : Fault) {c d : Char} (rest : List Char)
    (hc : c ∈ [' ', '.', ',']) (hd : d ≠ '-') :
    readEntry {} fault (c :: d :: rest) = .ok (⟨.single c, [], ⟨c :: d :: rest, d :: rest⟩⟩,
      d :: rest) := by
  have hrange : startsRange {} (d :: rest) = false := by
    unfold startsRange
    split
    · simp_all
    · rfl
  simp only [List.mem_cons, List.not_mem_nil, or_false] at hc
  unfold readEntry
  rcases hc with rfl | rfl | rfl <;>
    simp [readClassAtom, Flags.skip, Flags.classChar, hrange, bind, Except.bind, pure, Except.pure]

/-- Characters as entries of a class up to its end. -/
theorem readClassLoop_chars {others : List Char} (h : ∀ c ∈ others, c ∈ [' ', '.', ','])
    (frames : List ClassFrame) (l : ClassList) (bound : Nat) (rest : List Char)
    (hl : l.nesting = []) :
    ∃ l' : ClassList, l'.nesting = [] ∧
      l'.members = others.foldl (fun s c => s.union (.single c)) l.members ∧
      readClassLoop {} (bound + others.length) frames l (others ++ ']' :: rest) =
        readClassLoop {} bound frames l' (']' :: rest) := by
  induction others generalizing l with
  | nil => exact ⟨l, hl, rfl, rfl⟩
  | cons c others ih =>
    have hc := h c List.mem_cons_self
    -- After a character stands another one, or the bracket.
    obtain ⟨d, s, hs, hd⟩ : ∃ d s, others ++ ']' :: rest = d :: s ∧ d ≠ '-' := by
      cases others with
      | nil => exact ⟨']', rest, rfl, by decide⟩
      | cons d others =>
        have := h d (by simp)
        refine ⟨d, _, rfl, fun e => ?_⟩
        subst e
        simp at this
    have hentry := readEntry_char (unclosedClass frames) s hc hd
    have hc' : c ∉ ['[', ']', '&', '-', '~'] := by
      simp only [List.mem_cons, List.not_mem_nil, or_false] at hc
      rcases hc with rfl | rfl | rfl <;> decide
    obtain ⟨l', h1, h2, h3⟩ := ih (fun c hc => h c (List.mem_cons_of_mem _ hc))
      (l.add ⟨.single c, [], ⟨c :: d :: s, d :: s⟩⟩) (by simp [ClassList.add, Nesting.join, hl])
    rw [hs] at h3
    refine ⟨l', h1, h2, ?_⟩
    rw [List.cons_append, hs, List.length_cons, ← Nat.add_assoc, readClassLoop_entry hc' hentry]
    exact h3

/-- A class of the digits and some more characters. -/
theorem readClass_digitsAnd {others : List Char} (h : ∀ c ∈ others, c ∈ [' ', '.', ','])
    (rest : List Char) :
    ∃ part : ClassPart, part.members = digitsAnd others ∧ part.nesting.length ≤ 2 ∧
      readClass {} ('[' :: '0' :: '-' :: '9' :: (others ++ ']' :: rest)) = .ok (part, rest) := by
  let s := others ++ ']' :: rest
  have hstart : readClassStart {} ('[' :: '0' :: '-' :: '9' :: s) =
      .ok (⟨false, ⟨'[' :: '0' :: '-' :: '9' :: s, '0' :: '-' :: '9' :: s⟩,
        .startingAt ('0' :: '-' :: '9' :: s)⟩, '0' :: '-' :: '9' :: s) := rfl
  let digits : ClassPart := ⟨.range 0x30 0x39, [], ⟨'0' :: '-' :: '9' :: s, s⟩⟩
  have hentry : ∀ fault, readEntry {} fault ('0' :: '-' :: '9' :: s) = .ok (digits, s) :=
    fun _ => rfl
  have hlength : ('[' :: '0' :: '-' :: '9' :: s).length =
      rest.length + 3 + 1 + others.length + 1 := by
    simp only [List.length_cons, List.length_append, s]
    omega
  unfold readClass
  rw [hstart, hlength]
  simp only [bind, Except.bind]
  rw [readClassLoop_entry (by decide) (hentry _)]
  obtain ⟨l, h1, h2, h3⟩ := readClassLoop_chars h
    [.opened false ⟨'[' :: '0' :: '-' :: '9' :: s, '0' :: '-' :: '9' :: s⟩
      (.startingAt ('[' :: '0' :: '-' :: '9' :: s))]
    (ClassList.add (.startingAt ('0' :: '-' :: '9' :: s)) digits) (rest.length + 3 + 1) rest rfl
  rw [h3, readClassLoop_close]
  refine ⟨_, h2, ?_, rfl⟩
  simp only [ClassList.toPart, h1, Nesting.wrap]
  split <;> simp [maxDepth]

/-! ## Steps of reading -/

/-- Reading leads from one state to another in at most so many steps. -/
def ReadState.Leads (most : Nat) (st st' : ReadState) : Prop :=
  ∃ steps ≤ most, ∀ bound, ReadState.run (bound + steps) st = ReadState.run bound st'

namespace ReadState.Leads

variable {st st' st'' : ReadState} {m n : Nat}

theorem refl (st : ReadState) : Leads 0 st st := ⟨0, Nat.le_refl _, fun _ => rfl⟩

theorem trans (h : Leads m st st') (h' : Leads n st' st'') : Leads (m + n) st st'' := by
  obtain ⟨steps, h1, h2⟩ := h
  obtain ⟨steps', h1', h2'⟩ := h'
  refine ⟨steps' + steps, by omega, fun bound => ?_⟩
  rw [← Nat.add_assoc, h2, h2']

theorem mono (h : Leads m st st') (hm : m ≤ n) : Leads n st st' := by
  obtain ⟨steps, h1, h2⟩ := h
  exact ⟨steps, Nat.le_trans h1 hm, h2⟩

/-- One step of reading where no flags are set. -/
theorem step {c : Char} {rest : List Char} (hf : st.flags = {}) (hr : st.rest = c :: rest)
    (h : st.step c rest = .ok st') : Leads 1 st st' := by
  refine ⟨1, Nat.le_refl _, fun bound => ?_⟩
  rw [ReadState.run, hf, hr]
  show (st.step c rest).bind (ReadState.run bound) = _
  rw [h]
  rfl

end ReadState.Leads

/-! ## Parts of an expression -/

/-- A state with some more parts, the last one first, in front of a text. -/
def ReadState.adding (st : ReadState) (parts : List Part) (rest : List Char) : ReadState :=
  { st with level := { st.level with parts := parts ++ st.level.parts }, rest }

/-- Reading a text adds parts with the given trees to the open group, in at most as many steps as
there are characters, in front of what may follow. What is nested in the parts has a bounded
depth. -/
def Reads (follow : List Char → Prop) (depth : Nat) (text : List Char) (trees : List Tree) : Prop :=
  ∀ (st : ReadState) (rest : List Char), st.flags = {} → st.rest = text ++ rest → follow rest →
    ∃ parts : List Part, parts.map Part.tree = trees.reverse ∧
      (∀ p ∈ parts, p.repeatable = true ∧ p.nesting.length ≤ depth) ∧
      st.Leads text.length (st.adding parts rest)

/-- Anything may follow. -/
def anyText (_ : List Char) : Prop := True

/-- No question mark follows, which would make a repetition prefer fewer copies. -/
def noMark (rest : List Char) : Prop := rest.head? ≠ some '?'

theorem readLazy_of_noMark {rest : List Char} (h : noMark rest) :
    readLazy rest = (false, rest) := by
  unfold readLazy
  split
  · exact absurd rfl h
  · rfl

namespace Reads

variable {follow follow' : List Char → Prop} {depth depth' : Nat} {text text' : List Char}
  {trees trees' : List Tree} {t : Tree}

theorem mono (h : Reads follow depth text trees) (hf : ∀ rest, follow' rest → follow rest)
    (hd : depth ≤ depth') : Reads follow' depth' text trees := by
  intro st rest hflags hr hq
  obtain ⟨parts, h1, h2, h3⟩ := h st rest hflags hr (hf rest hq)
  exact ⟨parts, h1, fun p hp => ⟨(h2 p hp).1, Nat.le_trans (h2 p hp).2 hd⟩, h3⟩

/-- A text that is read in one step. -/
theorem atom {c : Char} (h : ∀ (st : ReadState) (rest : List Char), st.flags = {} →
      ∃ part : Part, part.tree = t ∧ part.repeatable = true ∧ part.nesting.length ≤ depth ∧
        st.step c (text ++ rest) = .ok (st.push part rest)) :
    Reads anyText depth (c :: text) [t] := by
  intro st rest hf hr _
  obtain ⟨part, h1, h2, h3, h4⟩ := h st rest hf
  have hlead := ReadState.Leads.step hf hr h4
  exact ⟨[part], by simp [h1], by simp [h2, h3], hlead.mono (by simp)⟩

/-- Texts in a row. -/
theorem append (h : Reads follow depth text trees) (h' : Reads follow' depth text' trees')
    (hf : ∀ rest, follow' rest → follow (text' ++ rest)) :
    Reads follow' depth (text ++ text') (trees ++ trees') := by
  intro st rest hflags hr hrest
  rw [List.append_assoc] at hr
  obtain ⟨parts, h1, h2, h3⟩ := h st (text' ++ rest) hflags hr (hf rest hrest)
  obtain ⟨parts', h1', h2', h3'⟩ := h' (st.adding parts (text' ++ rest)) rest hflags rfl hrest
  refine ⟨parts' ++ parts, by simp [h1, h1'], fun p hp => ?_, ?_⟩
  · exact (List.mem_append.mp hp).elim (h2' p) (h2 p)
  · have h := h3.trans h3'
    simpa [ReadState.adding, List.append_assoc] using h

/-- A repetition operator behind one part. -/
theorem repeated (h : Reads follow depth text [t]) (operator : Char) (mark : List Char) (min : Nat)
    (max : Option Nat) (lazy : Bool)
    (hop : ∀ (st : ReadState) (rest : List Char),
      st.step operator rest = st.repeatLast (operator :: rest) min max)
    (hf : ∀ rest, follow' rest → follow (operator :: (mark ++ rest)))
    (hlazy : ∀ rest, follow' rest → readLazy (mark ++ rest) = (lazy, rest))
    (hdepth : depth < maxDepth) :
    Reads follow' (depth + 1) (text ++ operator :: mark) [.repeated min max (!lazy) t] := by
  intro st rest hflags hr hrest
  rw [List.append_assoc, List.cons_append] at hr
  obtain ⟨parts, h1, h2, h3⟩ := h st _ hflags hr (hf rest hrest)
  obtain ⟨p, rfl, rfl⟩ : ∃ p, parts = [p] ∧ p.tree = t := by
    simpa [List.map_eq_singleton_iff] using h1
  obtain ⟨hp1, hp2⟩ := h2 p List.mem_cons_self
  let part : Part := {
    tree := .repeated min max (!lazy) p.tree
    nesting := Nesting.wrap ⟨p.start, rest⟩ p.nesting
    start := p.start }
  let s := operator :: (mark ++ rest)
  have hstep : (st.adding [p] s).step operator (mark ++ rest) = .ok (st.adding [part] rest) := by
    have hlast : (st.adding [p] s).lastPart s = .ok (p, st.level.parts) := by
      simp [ReadState.lastPart, ReadState.adding, hp1]
    rw [hop]
    simp only [s] at hlast
    simp only [ReadState.repeatLast, s, hlast, List.tail_cons, hlazy rest hrest, bind, Except.bind,
      pure, Except.pure]
    simp [ReadState.pushRepeated, ReadState.adding, hflags, part]
  have hlead := h3.trans (ReadState.Leads.step hflags rfl hstep)
  refine ⟨[part], rfl, ?_, hlead.mono (by simp)⟩
  simp only [List.mem_singleton, forall_eq, true_and, part, Nesting.wrap, List.length_cons,
    List.length_take]
  omega

end Reads

/-! ## Groups -/

theorem nestingOf_length {parts : List Part} {depth : Nat}
    (h : ∀ p ∈ parts, p.nesting.length ≤ depth) : (nestingOf parts).length ≤ depth := by
  have hfold : ∀ n : Nesting, n.length ≤ depth →
      (parts.foldl (fun n p => Nesting.join n p.nesting) n).length ≤ depth := by
    induction parts with
    | nil => exact fun n hn => hn
    | cons p parts ih =>
      intro n hn
      have hp := h p List.mem_cons_self
      refine ih (fun p hp => h p (List.mem_cons_of_mem _ hp)) _ ?_
      simp only [Nesting.join, List.length_append, List.length_drop]
      omega
  exact hfold [] (Nat.zero_le _)

theorem filterMap_repeatable {parts : List Part} (h : ∀ p ∈ parts, p.repeatable = true) :
    (parts.filterMap fun p => if p.repeatable then some p.tree else none) =
      parts.map Part.tree := by
  induction parts with
  | nil => rfl
  | cons p parts ih =>
    rw [List.filterMap_cons, h p List.mem_cons_self, List.map_cons,
      ih fun p hp => h p (List.mem_cons_of_mem _ hp)]
    rfl

/-- The content of a level with one alternative is the trees of its parts in a row. -/
theorem Level.content_of_parts {l : Level} {trees : List Tree} {depth : Nat} (stop : List Char)
    (ha : l.alternatives = []) (ht : l.parts.map Part.tree = trees.reverse)
    (hp : ∀ p ∈ l.parts, p.repeatable = true ∧ p.nesting.length ≤ depth) :
    (l.content stop).tree = .seqAll trees ∧ (l.content stop).nesting.length ≤ depth + 1 := by
  have htrees : (l.parts.reverse.filterMap fun p => if p.repeatable then some p.tree else none) =
      trees := by
    rw [filterMap_repeatable fun p hp' => (hp p (List.mem_reverse.mp hp')).1, List.map_reverse, ht,
      List.reverse_reverse]
  have hnest : (l.alternative stop).nesting.length ≤ depth + 1 := by
    have hlen := nestingOf_length fun p hp' => (hp p (List.mem_reverse.mp hp')).2
    simp only [Level.alternative]
    split
    · omega
    · simp only [Nesting.wrap, List.length_cons, List.length_take]
      omega
  constructor
  · simp only [Level.content, ha, List.reverse_singleton, List.map_singleton]
    simp [Level.alternative, htrees, Tree.altAll]
  · simpa [Level.content, ha, nestingOf, Nesting.join] using hnest

/-- What a group is once it is closed. -/
def Opening.tree (content : Tree) : Opening → Tree
  | .capture index name => .group index name content
  | _ => content

/-- Reading an open group to its end. -/
theorem Reads.inGroup {follow : List Char → Prop} {depth : Nat} {text : List Char}
    {trees : List Tree} (h : Reads follow depth text trees) (st : ReadState) (rest : List Char)
    (hf : follow (')' :: rest)) (start : List Char) (opening : Opening) :
    ∃ part : Part, part.tree = opening.tree (.seqAll trees) ∧
      part.repeatable = true ∧ part.nesting.length ≤ depth + 2 ∧
      (st.openGroup start opening {} (text ++ ')' :: rest)).Leads (text.length + 1)
        (st.adding [part] rest) := by
  obtain ⟨parts, h1, h2, h3⟩ := h (st.openGroup start opening {} (text ++ ')' :: rest))
    (')' :: rest) rfl rfl hf
  let inner := (st.openGroup start opening {} (text ++ ')' :: rest)).adding parts (')' :: rest)
  have hparts : inner.level.parts = parts := List.append_nil parts
  obtain ⟨hc1, hc2⟩ := @Level.content_of_parts inner.level trees depth (')' :: rest) rfl
    (hparts ▸ h1) (hparts ▸ h2)
  let part : Part := {
    tree := opening.tree (inner.level.content (')' :: rest)).tree
    nesting := Nesting.wrap ⟨start, rest⟩ (inner.level.content (')' :: rest)).nesting
    start := start }
  have hclose : inner.step ')' rest = .ok (st.adding [part] rest) := by
    cases opening <;> rfl
  refine ⟨part, by rw [← hc1], rfl, ?_, h3.trans (ReadState.Leads.step rfl rfl hclose)⟩
  simp only [part, Nesting.wrap, List.length_cons, List.length_take]
  omega

/-- A group without a name and a number. -/
theorem Reads.plainGroup {follow : List Char → Prop} {depth : Nat} {text : List Char}
    {trees : List Tree} (h : Reads follow depth text trees) (hf : ∀ rest, follow (')' :: rest)) :
    Reads anyText (depth + 2) ('(' :: '?' :: ':' :: (text ++ [')'])) [.seqAll trees] := by
  intro st rest hflags hr _
  let start := '(' :: '?' :: ':' :: (text ++ ')' :: rest)
  have hr' : st.rest = start := by simp [hr, start]
  obtain ⟨part, h1, h2, h3, h4⟩ := h.inGroup st rest (hf rest) start .plain
  have hopen : st.step '(' start.tail =
      .ok (st.openGroup start .plain {} (text ++ ')' :: rest)) := by
    show st.group start = _
    unfold ReadState.group
    rw [hflags]
    show st.flagGroup start _ _ = _
    unfold ReadState.flagGroup
    rw [hflags]
    rfl
  have hlead := (ReadState.Leads.step hflags hr' hopen).trans h4
  refine ⟨[part], by simp [h1, Opening.tree], by simp [h2, h3], hlead.mono ?_⟩
  simp only [List.length_cons, List.length_append, List.length_nil]
  omega

/-! ## Atoms -/

/-- What a backslash stands for. -/
theorem Reads.escape (text : List Char) {a : Atom} {t : Tree}
    (h : ∀ rest, readEscape {} (text ++ rest) = .ok (a, rest))
    (ht : ∀ place, a.tree {} place = .ok t) : Reads anyText 0 ('\\' :: text) [t] := by
  refine Reads.atom fun st rest hf => ?_
  let start := '\\' :: (text ++ rest)
  refine ⟨{ tree := t, nesting := [], start := start }, rfl, rfl, Nat.le_refl _, ?_⟩
  show (readEscape st.flags (text ++ rest)).bind (fun r => st.atom start r.1 r.2) = _
  rw [hf, h]
  simp [Except.bind, ReadState.atom, hf, ht, bind, pure, Except.pure]

theorem Reads.blank : Reads anyText 0 ['\\', 's'] [.set .blank] :=
  Reads.escape ['s'] (fun _ => rfl) fun _ => rfl

theorem Reads.letter : Reads anyText 0 "\\p\x7bL\x7d".toList [.set .letter] :=
  Reads.escape "p\x7bL\x7d".toList (fun _ => rfl) fun _ => rfl

theorem Reads.anyChar : Reads anyText 0 ['.'] [.set .everything] := by
  refine Reads.atom fun st rest hf => ?_
  refine ⟨{ tree := .set .everything, nesting := [], start := '.' :: rest }, rfl, rfl,
    Nat.le_refl _, ?_⟩
  show st.atom ('.' :: rest) .dot rest = _
  simp [ReadState.atom, hf, Atom.tree, bind, Except.bind, pure, Except.pure]

theorem Reads.digitsAnd (others : List Char) (h : ∀ c ∈ others, c ∈ [' ', '.', ',']) :
    Reads anyText 2 ('[' :: '0' :: '-' :: '9' :: (others ++ [']'])) [.set (digitsAnd others)] := by
  refine Reads.atom fun st rest hf => ?_
  obtain ⟨part, h1, h2, h3⟩ := readClass_digitsAnd h rest
  let start := '[' :: '0' :: '-' :: '9' :: (others ++ ']' :: rest)
  refine ⟨{ tree := .set part.members, nesting := part.nesting, start := start }, by simp [h1], rfl,
    h2, ?_⟩
  show st.charClass ('[' :: ('0' :: '-' :: '9' :: (others ++ [']']) ++ rest)) = _
  simp [ReadState.charClass, hf, start, h3, bind, Except.bind, pure, Except.pure]

/-! ## Repetitions -/

section Repetitions

variable {depth : Nat} {text : List Char} {t : Tree}

theorem Reads.plus (h : Reads anyText depth text [t]) (hd : depth < maxDepth) :
    Reads noMark (depth + 1) (text ++ ['+']) [.repeated 1 none true t] :=
  h.repeated '+' [] 1 none false (fun _ _ => rfl) (fun _ _ => trivial)
    (fun _ h => readLazy_of_noMark h) hd

theorem Reads.star (h : Reads anyText depth text [t]) (hd : depth < maxDepth) :
    Reads noMark (depth + 1) (text ++ ['*']) [.repeated 0 none true t] :=
  h.repeated '*' [] 0 none false (fun _ _ => rfl) (fun _ _ => trivial)
    (fun _ h => readLazy_of_noMark h) hd

theorem Reads.lazyStar (h : Reads anyText depth text [t]) (hd : depth < maxDepth) :
    Reads anyText (depth + 1) (text ++ ['*', '?']) [.repeated 0 none false t] :=
  h.repeated '*' ['?'] 0 none true (fun _ _ => rfl) (fun _ _ => trivial) (fun _ _ => rfl) hd

theorem Reads.optional (h : Reads anyText depth text [t]) (hd : depth < maxDepth) :
    Reads noMark (depth + 1) (text ++ ['?']) [.repeated 0 (some 1) true t] :=
  h.repeated '?' [] 0 (some 1) false (fun _ _ => rfl) (fun _ _ => trivial)
    (fun _ h => readLazy_of_noMark h) hd

end Repetitions

end Dossier.Regex
