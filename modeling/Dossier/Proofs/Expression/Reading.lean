import Dossier.Expression.Compiled
import Dossier.Proofs.Regex.Reads
import Mathlib.Tactic.SplitIfs

/-!
# Reading the expressions of simple expressions

The regular expression of a list of items is read back as the tree that was meant: one part for
each item, whatever its characters are.

* `Item.tree`, `treeOf` : the tree that is meant by an item, and by items in a row;
* `HasRead` : what is known once some items have been read; it is kept by one more item
  (`HasRead.step`) and so by all of them (`HasRead.run`);
* `read_patternOf` : the expression of items with proper names is read as `treeOf`;
* `readPlaceholder_eq_ok` : what makes a placeholder;
* `properNames_readItems` : the names in a text that is read as items are proper.
-/

namespace Dossier

open Regex

/-! ## What is meant by an item -/

/-- The sign itself. -/
def DecimalSign.sign : DecimalSign → Char
  | dot => '.'
  | comma => ','

/-- The sign that may stand between the digits before the decimals. -/
def DecimalSign.separator : DecimalSign → Char
  | dot => ','
  | comma => '.'

/-- The trees that are meant by the body of a group that captures a value. -/
def Capture.trees : Capture → List Tree
  | .word => [.rep 1 none true (.set .letter)]
  | .int => [.rep 1 none true (.set (digitsAnd []))]
  | .number sign =>
    [.rep 1 none true (.set (digitsAnd [' ', sign.separator])),
      .rep 0 (some 1) true
        (.seq (.set (.single sign.sign)) (.rep 0 none true (.set (digitsAnd []))))]

/-- The tree that is meant by an item. A group gets the given number. -/
def Item.tree (index : Nat) : Item → Tree
  | char c => .set (.single c)
  | blank => .rep 1 none true (.set .blank)
  | anyText => .rep 0 none false (.set .everything)
  | anyChar => .set .everything
  | placeholder name capture => .group index (some name) (.seqAll capture.trees)

/-- The number of the next group after an item. -/
def Item.nextIndex (index : Nat) : Item → Nat
  | placeholder _ _ => index + 1
  | _ => index

/-- The trees that are meant by items. Groups are numbered from a number on. -/
def treesFrom (index : Nat) : List Item → List Tree
  | [] => []
  | item :: items => item.tree index :: treesFrom (item.nextIndex index) items

/-- The tree that is meant by items in a row. -/
def treeOf (items : List Item) : Tree := .seqAll (treesFrom 1 items)

/-- A character that stands for itself, with a backslash if it needs one. -/
theorem Reads.char (c : Char) : Reads Regex.anyText 0 (quoteSign c) [.set (.single c)] := by
  unfold quoteSign
  split
  · rename_i hc
    refine Reads.escape [c] (a := .char c) (fun rest => ?_) fun _ => rfl
    unfold isPatternSign at hc
    split at hc <;> first | rfl | simp at hc
  · rename_i hc
    refine Reads.atom fun st rest hf => ?_
    refine ⟨{ tree := .set (.single c), nesting := [], start := c :: rest }, rfl, rfl,
      Nat.le_refl _, ?_⟩
    have hstep : st.step c rest = st.atom (c :: rest) (.char c) rest := by
      unfold ReadState.step
      split <;> first | rfl | simp [isPatternSign] at hc
    rw [List.nil_append, hstep]
    simp [ReadState.atom, hf, Atom.tree, Flags.fold, bind, Except.bind, pure, Except.pure]

theorem Reads.digits : Reads Regex.anyText 2 "[0-9]".toList [.set (digitsAnd [])] :=
  Reads.digitsAnd [] (by simp)

theorem DecimalSign.reads_tail (sign : DecimalSign) :
    Reads noMark 6 ("(?:".toList ++ quoteSign sign.sign ++ "[0-9]*)?".toList)
      [.rep 0 (some 1) true
        (.seq (.set (.single sign.sign)) (.rep 0 none true (.set (digitsAnd []))))] := by
  have hstar := Reads.digits.star (by decide)
  have hinner := ((Reads.char sign.sign).mono (fun _ h => h) (Nat.zero_le 3)).append hstar
    fun _ _ => trivial
  have h := (hinner.plainGroup fun rest => by simp [noMark]).optional (by decide)
  cases sign <;> exact h

/-- The body of a group is read as meant. -/
theorem Capture.reads (capture : Capture) : Reads noMark 6 capture.pattern capture.trees := by
  cases capture with
  | word => exact (Reads.letter.plus (by decide)).mono (fun _ h => h) (by decide)
  | int => exact (Reads.digits.plus (by decide)).mono (fun _ h => h) (by decide)
  | number sign =>
    have hbody : Reads Regex.anyText 2 ("[0-9 ".toList ++ [sign.separator, ']'])
        [.set (digitsAnd [' ', sign.separator])] :=
      Reads.digitsAnd [' ', sign.separator] (by cases sign <;> simp [DecimalSign.separator])
    have h := ((hbody.plus (by decide)).mono (fun _ h => h) (by decide)).append sign.reads_tail
      fun rest _ => by simp [noMark]
    cases sign <;> exact h

/-! ## Names of groups -/

theorem contains_of_mem {s : CharSet} {c : Char} {r : Nat × Nat} (hr : r ∈ s.ranges)
    (h1 : r.1 ≤ c.toNat) (h2 : c.toNat ≤ r.2) : s.contains c = true := by
  simp only [CharSet.contains, CharSet.containsCode, List.any_eq_true, Bool.and_eq_true,
    decide_eq_true_eq]
  exact ⟨r, hr, h1, h2⟩

theorem alphabetic_of_isAlpha {c : Char} (h : c.isAlpha = true) :
    CharSet.alphabetic.contains c = true := by
  rcases Bool.or_eq_true_iff.mp h with h | h
  · obtain ⟨h1, h2⟩ := of_decide_eq_true h
    exact contains_of_mem (r := (0x41, 0x5A)) (.head _) (UInt32.le_iff_toNat_le.mp h1)
      (UInt32.le_iff_toNat_le.mp h2)
  · obtain ⟨h1, h2⟩ := Bool.and_eq_true_iff.mp h
    exact contains_of_mem (r := (0x61, 0x7A)) (.tail _ (.head _))
      (UInt32.le_iff_toNat_le.mp (of_decide_eq_true h1))
      (UInt32.le_iff_toNat_le.mp (of_decide_eq_true h2))

theorem numeral_of_isDigit {c : Char} (h : c.isDigit = true) :
    CharSet.numeral.contains c = true := by
  simp only [Char.isDigit, Bool.and_eq_true, decide_eq_true_eq, UInt32.le_iff_toNat_le] at h
  exact contains_of_mem (r := (0x30, 0x39)) (.head _) h.1 h.2

/-- The characters of a placeholder name may stand in the name of a group. -/
theorem readName_of_all {name : List Char} (rest : List Char)
    (h : name.all fun c => c.isAlphanum || c == '_') :
    readName false (name ++ '>' :: rest) = .ok (name, '>' :: rest) := by
  induction name with
  | nil => rfl
  | cons c name ih =>
    simp only [List.all_cons, Bool.and_eq_true] at h
    obtain ⟨hc, hn⟩ := h
    have hname : isNameChar false c = true := by
      simp only [Char.isAlphanum, Bool.or_eq_true, beq_iff_eq] at hc
      rcases hc with (hc | hc) | rfl
      · simp [isNameChar, alphabetic_of_isAlpha hc]
      · simp [isNameChar, numeral_of_isDigit hc]
      · rfl
    have hne : c ≠ '>' := by
      rintro rfl
      exact absurd hc (by decide)
    simp [readName, hne, hname, ih hn, bind, Except.bind, pure, Except.pure]

theorem readName_of_isPlaceholderName {name : List Char} (rest : List Char)
    (h : isPlaceholderName name = true) :
    readName true (name ++ '>' :: rest) = .ok (name, '>' :: rest) := by
  cases name with
  | nil => simp [isPlaceholderName] at h
  | cons c name =>
    simp only [isPlaceholderName, Bool.and_eq_true] at h
    obtain ⟨hc, hn⟩ := h
    have hne : c ≠ '>' := by
      rintro rfl
      exact absurd hc (by decide)
    simp [readName, isNameChar, hne, alphabetic_of_isAlpha hc, readName_of_all rest hn, bind,
      Except.bind, pure, Except.pure]

/-! ## Items in a row -/

theorem treesFrom_append (index : Nat) (items items' : List Item) :
    treesFrom index (items ++ items') =
      treesFrom index items ++ treesFrom (items.foldl Item.nextIndex index) items' := by
  induction items generalizing index with
  | nil => rfl
  | cons item items ih => simp only [List.cons_append, treesFrom, List.foldl_cons, ih]

/-- What is known once some items have been read. -/
structure HasRead (items : List Item) (st : ReadState) : Prop where
  flags : st.flags = {}
  outer : st.outer = []
  alternatives : st.level.alternatives = []
  trees : st.level.parts.map Part.tree = (treesFrom 1 items).reverse
  parts : ∀ p ∈ st.level.parts, p.repeatable = true ∧ p.nesting.length ≤ 8
  captures : st.captures + 1 = items.foldl Item.nextIndex 1
  names : st.names.map Prod.fst = (placeholderNames items).reverse

theorem HasRead.start (text : List Char) : HasRead [] (ReadState.start text) :=
  ⟨rfl, rfl, rfl, rfl, by simp [ReadState.start], rfl, rfl⟩

/-- A name may be the name of the next group. -/
def Item.MayFollow (items : List Item) : Item → Prop
  | placeholder name _ => isPlaceholderName name.toList = true ∧ name ∉ placeholderNames items
  | _ => True

namespace HasRead

variable {items : List Item} {st : ReadState}

/-- An item that is no placeholder adds its part. -/
theorem plain (h : HasRead items st) {item : Item} {rest : List Char} (depth : Nat)
    (hreads : Reads noMark depth item.pattern [item.tree (items.foldl Item.nextIndex 1)])
    (hdepth : depth ≤ 8) (hindex : ∀ index, item.nextIndex index = index)
    (hname : placeholderNames [item] = []) (hr : st.rest = item.pattern ++ rest)
    (hmark : noMark rest) :
    ∃ st', HasRead (items ++ [item]) st' ∧ st'.rest = rest ∧ st.Leads item.pattern.length st' := by
  obtain ⟨parts, h1, h2, h3⟩ := hreads st rest h.flags hr hmark
  refine ⟨st.adding parts rest, ?_, rfl, h3⟩
  exact {
    flags := h.flags
    outer := h.outer
    alternatives := h.alternatives
    trees := by
      simp [ReadState.adding, h1, h.trees, treesFrom_append, treesFrom]
    parts := by
      intro p hp
      rcases List.mem_append.mp hp with hp | hp
      · exact ⟨(h2 p hp).1, Nat.le_trans (h2 p hp).2 hdepth⟩
      · exact h.parts p hp
    captures := by simp [ReadState.adding, h.captures, hindex]
    names := by
      simp only [placeholderNames, List.filterMap_append, List.reverse_append] at hname ⊢
      rw [hname]
      exact h.names }

theorem lookup_eq_none {name : String} (h : HasRead items st) (hn : name ∉ placeholderNames items) :
    st.names.lookup name = none := by
  rw [List.lookup_eq_none_iff]
  intro p hp
  have : p.1 ∈ placeholderNames items := by
    rw [← List.mem_reverse, ← h.names]
    exact List.mem_map_of_mem hp
  refine bne_iff_ne.mpr ?_
  rintro rfl
  exact hn this

/-- A placeholder adds a group with the next number. -/
theorem placeholder (h : HasRead items st) {name : String} {capture : Capture} {rest : List Char}
    (hf : (Item.placeholder name capture).MayFollow items)
    (hr : st.rest = capture.group name ++ rest) :
    ∃ st', HasRead (items ++ [.placeholder name capture]) st' ∧ st'.rest = rest ∧
      st.Leads (capture.group name).length st' := by
  let s := name.toList ++ '>' :: (capture.pattern ++ ')' :: rest)
  let place : Span := ⟨s, '>' :: (capture.pattern ++ ')' :: rest)⟩
  let named : ReadState :=
    { st with captures := st.captures + 1, names := (name, place) :: st.names }
  let start := '(' :: '?' :: 'P' :: '<' :: s
  have hr' : st.rest = start := by simp [hr, start, s, Capture.group]
  obtain ⟨part, h1, h2, h3, h4⟩ := capture.reads.inGroup named rest
    (by simp [noMark]) start (.capture (st.captures + 1) (some name))
  have hopen : st.step '(' start.tail = .ok (named.openGroup start
      (.capture (st.captures + 1) (some name)) {} (capture.pattern ++ ')' :: rest)) := by
    have hne : name.toList.isEmpty = false := by
      have := hf.1
      cases hn : name.toList <;> simp_all [isPlaceholderName]
    show st.group start = _
    unfold ReadState.group
    rw [h.flags]
    show st.openNamed start s = _
    simp only [ReadState.openNamed, s, readName_of_isPlaceholderName _ hf.1, bind, Except.bind,
      hne, Bool.false_eq_true, if_false, String.ofList_toList, h.lookup_eq_none hf.2]
    simp [ReadState.openCapture, h.flags, named, place, s, pure, Except.pure]
  have hlead := (ReadState.Leads.step h.flags hr' hopen).trans h4
  refine ⟨named.adding [part] rest, ?_, rfl, hlead.mono ?_⟩
  · exact {
      flags := h.flags
      outer := h.outer
      alternatives := h.alternatives
      trees := by
        simp [ReadState.adding, named, h1, h.trees, treesFrom_append, treesFrom, Item.tree,
          Opening.tree, h.captures]
      parts := by
        intro p hp
        rcases List.mem_cons.mp hp with rfl | hp
        · exact ⟨h2, h3⟩
        · exact h.parts p hp
      captures := by simp [ReadState.adding, named, h.captures, Item.nextIndex]
      names := by
        simp [ReadState.adding, named, h.names, placeholderNames] }
  · simp only [Capture.group, List.length_append, List.length_cons, List.length_nil]
    omega

/-- Reading the next item. -/
theorem step (h : HasRead items st) {item : Item} {rest : List Char} (hf : item.MayFollow items)
    (hr : st.rest = item.pattern ++ rest) (hmark : noMark rest) :
    ∃ st', HasRead (items ++ [item]) st' ∧ st'.rest = rest ∧ st.Leads item.pattern.length st' := by
  cases item with
  | char c =>
    exact h.plain 0 ((Reads.char c).mono (fun _ _ => trivial) (Nat.le_refl _)) (by decide)
      (fun _ => rfl) rfl hr hmark
  | blank => exact h.plain 1 (Reads.blank.plus (by decide)) (by decide) (fun _ => rfl) rfl hr hmark
  | anyText =>
    exact h.plain 1 ((Reads.anyChar.lazyStar (by decide)).mono (fun _ _ => trivial) (Nat.le_refl _))
      (by decide) (fun _ => rfl) rfl hr hmark
  | anyChar =>
    exact h.plain 0 (Reads.anyChar.mono (fun _ _ => trivial) (Nat.le_refl _)) (by decide)
      (fun _ => rfl) rfl hr hmark
  | placeholder name capture => exact h.placeholder hf hr

end HasRead

/-- No item starts with a question mark. -/
theorem noMark_patternOf (items : List Item) : noMark (patternOf items) := by
  cases items with
  | nil => simp [noMark, patternOf]
  | cons item items =>
    cases item with
    | char c =>
      by_cases hc : isPatternSign c = true
      · simp [noMark, patternOf, Item.pattern, quoteSign, hc]
      · have : c ≠ '?' := by
          rintro rfl
          exact hc rfl
        simpa [noMark, patternOf, Item.pattern, quoteSign, hc]
    | blank | anyText | anyChar => simp [noMark, patternOf, Item.pattern]
    | placeholder name capture => simp [noMark, patternOf, Item.pattern, Capture.group]

/-- Names that may be the names of groups, each used once. -/
def ProperNames (items : List Item) : Prop :=
  (placeholderNames items).Nodup ∧
    ∀ name ∈ placeholderNames items, isPlaceholderName name.toList = true

/-- Reading all items that are left. -/
theorem HasRead.run {items : List Item} {st : ReadState} (h : HasRead items st)
    (items' : List Item) (hnames : ProperNames (items ++ items'))
    (hr : st.rest = patternOf items') :
    ∃ st', HasRead (items ++ items') st' ∧ st'.rest = [] ∧
      st.Leads (patternOf items').length st' := by
  induction items' generalizing items st with
  | nil => exact ⟨st, by simpa using h, hr, .refl st⟩
  | cons item items' ih =>
    have hpattern : patternOf (item :: items') = item.pattern ++ patternOf items' := rfl
    rw [hpattern] at hr ⊢
    rw [List.append_cons] at hnames ⊢
    have hf : item.MayFollow items := by
      cases item with
      | char | blank | anyText | anyChar => trivial
      | placeholder name capture =>
        obtain ⟨h1, h2⟩ := hnames
        simp only [placeholderNames, List.filterMap_append, List.append_assoc,
          List.nodup_append] at h1 h2
        refine ⟨h2 name (by simp), fun hmem => ?_⟩
        exact h1.2.2 name hmem name (by simp) rfl
    obtain ⟨st', h1, h2, h3⟩ := h.step hf hr (noMark_patternOf items')
    obtain ⟨st'', h1', h2', h3'⟩ := ih h1 hnames h2
    exact ⟨st'', h1', h2', (h3.trans h3').mono (by simp)⟩

/-- The regular expression of items with proper names is read as their trees in a row. -/
theorem read_patternOf {items : List Item} (hnames : ProperNames items) :
    Tree.read (patternOf items) = .ok (treeOf items) := by
  obtain ⟨st, h2, h3, steps, h1, h4⟩ := (HasRead.start (patternOf items)).run items hnames rfl
  obtain ⟨bound, hbound⟩ : ∃ bound, (patternOf items).length + 1 = bound + 1 + steps :=
    ⟨(patternOf items).length - steps, by omega⟩
  have hend : ReadState.run (bound + 1) st = .ok { st with rest := [] } := by
    rw [ReadState.run, h2.flags, h3]
    rfl
  obtain ⟨hc1, hc2⟩ := Level.content_of_parts [] h2.alternatives h2.trees h2.parts
  have hdepth : (st.level.content []).nesting[maxDepth]? = none :=
    List.getElem?_eq_none (Nat.le_trans hc2 (by decide))
  unfold Tree.read
  rw [hbound, h4, hend]
  show ReadState.tree { st with rest := [] } = _
  simp only [ReadState.tree, h2.outer, List.isEmpty_nil, if_true]
  rw [hdepth]
  show Except.ok (st.level.content []).tree = _
  rw [hc1]
  rfl

/-! ## The names of placeholders -/

/-- A placeholder is read just if its name is proper and new and its kind takes the arguments. -/
theorem readPlaceholder_eq_ok {used : List String} {body : List Char} {item : Item} :
    readPlaceholder used body = .ok item ↔
      ∃ name kind arguments k capture,
        splitColons (Text.trim body) = name :: kind :: arguments ∧
        CaptureKind.ofName? (String.ofList kind) = some k ∧
        k.capture (lowercased (String.ofList kind)) (arguments.map String.ofList) = .ok capture ∧
        item = .placeholder (String.ofList name) capture ∧
        isPlaceholderName name = true ∧ String.ofList name ∉ used := by
  constructor
  · intro h
    unfold readPlaceholder at h
    simp only at h
    split at h
    · rename_i name kind arguments hparts
      split_ifs at h with hempty hname hused
      cases hk : CaptureKind.ofName? (String.ofList kind) with
      | none => simp [hk] at h
      | some k =>
        simp only [hk] at h
        obtain ⟨capture, hcapture, rfl⟩ : ∃ capture,
            k.capture (lowercased (String.ofList kind)) (arguments.map String.ofList) =
              .ok capture ∧ .placeholder (String.ofList name) capture = item := by
          cases hc : k.capture (lowercased (String.ofList kind))
              (arguments.map String.ofList) with
          | error e => simp [hc, Except.map] at h
          | ok capture => exact ⟨capture, rfl, by simpa [hc, Except.map] using h⟩
        exact ⟨name, kind, arguments, k, capture, hparts, hk, hcapture, rfl, by simpa using hname,
          by simpa using hused⟩
    · cases h
  · rintro ⟨name, kind, arguments, k, capture, hparts, hk, hcapture, rfl, hname, hused⟩
    have hempty : name.isEmpty = false := by
      cases name with
      | nil => cases hname
      | cons => rfl
    simp [readPlaceholder, hparts, hempty, hname, hused, hk, hcapture, Except.map]

/-- What the text of a placeholder is read as. -/
theorem readPlaceholder_ok {used : List String} {body : List Char} {item : Item}
    (h : readPlaceholder used body = .ok item) :
    ∃ name parts capture, splitColons (Text.trim body) = name :: parts ∧
      item = .placeholder (String.ofList name) capture ∧ isPlaceholderName name = true ∧
      String.ofList name ∉ used := by
  obtain ⟨name, _, _, _, capture, hparts, -, -, rfl, hname, hused⟩ := readPlaceholder_eq_ok.mp h
  exact ⟨name, _, capture, hparts, rfl, hname, hused⟩

theorem ProperNames.cons {items : List Item} (h : ProperNames items) {item : Item}
    (hf : item.MayFollow items) : ProperNames (item :: items) := by
  cases item with
  | char | blank | anyText | anyChar => exact h
  | placeholder name capture =>
    refine ⟨List.nodup_cons.mpr ⟨hf.2, h.1⟩, fun n hn => ?_⟩
    rcases List.mem_cons.mp hn with rfl | hn
    · exact hf.1
    · exact h.2 n hn

theorem ProperNames.pushChar {items : List Item} (h : ProperNames items) (c : Char) :
    ProperNames (pushChar items c) := by
  unfold Dossier.pushChar
  split
  · split
    · exact h
    · exact h.cons trivial
  · exact h.cons trivial

theorem ProperNames.reverse {items : List Item} (h : ProperNames items) :
    ProperNames items.reverse := by
  have hnames : placeholderNames items.reverse = (placeholderNames items).reverse := by
    simp [placeholderNames, List.filterMap_reverse]
  unfold ProperNames
  rw [hnames]
  exact ⟨List.pairwise_reverse.mpr (h.1.imp Ne.symm),
    fun name hn => h.2 name (List.mem_reverse.mp hn)⟩

/-- Names that are read are proper if those before are. -/
theorem properNames_readItemsFrom {items items' : List Item} {body : Option (List Char)}
    {text : List Char} (hp : ProperNames items)
    (h : readItemsFrom items body text = .ok items') : ProperNames items' := by
  fun_induction readItemsFrom items body text with
  | case1 => cases h
  | case2 =>
    cases h
    exact hp.reverse
  | case8 => cases h
  -- The end of a placeholder.
  | case7 items rest body item hitem _ ih =>
    obtain ⟨name, -, capture, -, rfl, hname, hused⟩ := readPlaceholder_ok hitem
    rw [← String.toList_ofList (l := name)] at hname
    exact ih (hp.cons ⟨hname, hused⟩) h
  -- Inside a placeholder, or between items.
  | case3 _ _ _ _ _ ih | case5 _ _ _ _ _ ih | case9 _ _ _ _ _ _ ih | case10 _ _ _ ih
  | case13 _ _ _ _ _ _ ih => exact ih hp h
  -- One more item.
  | case11 _ _ _ _ ih | case12 _ _ _ _ _ ih => exact ih (hp.cons trivial) h
  | case4 _ _ _ _ ih | case6 _ _ _ _ ih | case14 _ _ _ _ _ _ _ _ ih => exact ih (hp.pushChar _) h

theorem properNames_readItems {text : String} {items : List Item} (h : readItems text = .ok items) :
    ProperNames items :=
  properNames_readItemsFrom (by simp [ProperNames, placeholderNames]) h

end Dossier
