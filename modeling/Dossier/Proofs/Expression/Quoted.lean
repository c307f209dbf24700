import Dossier.Proofs.Expression.Grammar

/-!
# Quoted texts

Every text can be written as a simple expression: a backslash in front of each wildcard and bracket
makes it stand for itself, and all other characters stand for themselves anyway. The expression then
matches the text and what differs from it in the amounts of white space only.

* `quotedText` : a text as a simple expression; `literalItems` : its items;
* `Tree.matchesWhole` : whether an expression matches a text from its start to its end;
* `matchesWhole_treeOf` : the same for items one after the other;
* `quoted_matchesWhole` : what a quoted text matches.
-/

namespace Dossier

open Regex

/-! ## Matches of a whole text -/

/-- Whether an expression matches a text from its start to its end. -/
def Regex.Tree.matchesWhole (t : Tree) (text : List Char) : Bool :=
  (search (.seq (.look .textStart) (.seq t (.look .textEnd))) text).isSome

/-- A node between the two ends of a text. -/
def anchored (node : Node) : Node := .seq (.look .textStart) (.seq node (.look .textEnd))

theorem anchored_finds (node : Node) (text : List Char) :
    (anchored node).finds (.start text) ≠ [] ↔
      ∃ m ∈ node.finds (.start text), m.1.rest = [] := by
  have hstart : (anchored node).finds (.start text) =
      followedBy (node.finds (.start text)) (Node.look .textEnd).finds := followedBy_single _ _
  rw [hstart]
  simp [followedBy, Node.finds, Look.holds, List.flatMap_eq_nil_iff]

/-- Only the first place of a text has a match that starts where the text does. -/
theorem leftmost_anchored (node : Node) (text : List Char) :
    ((anchored node).leftmost none 0 text).isSome = true ↔
      (anchored node).finds (.start text) ≠ [] := by
  have hlater : ∀ rest c offset, (anchored node).leftmost (some c) offset rest = none := by
    intro rest
    induction rest with
    | nil => exact fun _ _ => rfl
    | cons d rest ih => exact fun _ offset => ih d (offset + 1)
  cases text with
  | nil => simp [Node.leftmost, Cursor.start]
  | cons c rest =>
    rw [Node.leftmost, Cursor.start, hlater]
    split <;> simp_all

/-- An expression matches a whole text if one of its matches from the start ends at the end. -/
theorem matchesWhole_iff {t : Tree} (hflat : (Node.ofTree t 0).1.Flat) (text : List Char) :
    t.matchesWhole text = true ↔
      ∃ m ∈ (Node.ofTree t 0).1.finds (.start text), m.1.rest = [] := by
  have hanchored : (anchored (Node.ofTree t 0).1).Flat := ⟨trivial, hflat, trivial⟩
  have hsearch := @search_eq_leftmost (.seq (.look .textStart) (.seq t (.look .textEnd)))
    hanchored text
  rw [← anchored_finds, ← leftmost_anchored, Tree.matchesWhole, hsearch]
  rfl

/-- Whether items one after the other can take all of a text. -/
def takeAll : List Item → List Char → Prop
  | [], rest => rest = []
  | item :: items, rest => ∃ n ∈ item.lengths rest, takeAll items (rest.drop n)

theorem exists_finds_treesFrom (items : List Item) (index n : Nat) (place : Cursor) :
    (∃ m ∈ (Node.ofTree (.seqAll (treesFrom index items)) n).1.finds place, m.1.rest = []) ↔
      takeAll items place.rest := by
  induction items generalizing index n place with
  | nil => simp [treesFrom, Tree.seqAll, Node.ofTree, Node.finds, takeAll]
  | cons item items ih =>
    have hnext := fun m => ih (item.nextIndex index) (Node.ofTree (item.tree index) n).2
      (place.advance m)
    simp only [Cursor.advance_rest] at hnext
    rw [treesFrom, finds_seqAll_cons, Item.finds, takeAll]
    simp only [← hnext, followedBy, List.flatMap_map, List.mem_flatMap, List.mem_map]
    constructor
    · rintro ⟨-, ⟨m, hm, f, hf, rfl⟩, hrest⟩
      exact ⟨m, hm, f, hf, hrest⟩
    · rintro ⟨m, hm, f, hf, hrest⟩
      exact ⟨_, ⟨m, hm, f, hf, rfl⟩, hrest⟩

/-- Items in a row match a whole text if they can take all of it one after the other. -/
theorem matchesWhole_treeOf (items : List Item) (text : List Char) :
    (treeOf items).matchesWhole text = true ↔ takeAll items text := by
  rw [treeOf, matchesWhole_iff (flat_treesFrom items 1 0)]
  exact exists_finds_treesFrom items 1 0 (Cursor.start text)

/-! ## The items of a quoted text -/

/-- A text with a backslash in front of each wildcard and bracket. -/
def quotedText (text : String) : String :=
  String.ofList (text.toList.flatMap fun c => if isDelimiter c then ['\\', c] else [c])

/-- The signs of a quoted text. -/
def quotedSigns (text : List Char) : List Sign := text.map fun c => ⟨c, isDelimiter c⟩

theorem readable_quotedSigns (text : List Char) : Readable (quotedSigns text) := by
  induction text with
  | nil => exact ⟨by simp [quotedSigns], .nil⟩
  | cons c text ih =>
    refine ih.cons (fun h => h) fun t ht _ hescaped => ?_
    obtain ⟨d, -, rfl⟩ := List.mem_map.mp (List.mem_of_mem_head? ht)
    exact hescaped

theorem readSigns_quoted (text : String) :
    readSigns (quotedText text).toList = quotedSigns text.toList := by
  have hwritten : (quotedText text).toList = (quotedSigns text.toList).flatMap Sign.written := by
    simp [quotedText, quotedSigns, List.flatMap_map, Sign.written]
  rw [hwritten, readSigns_written (readable_quotedSigns _)]

/-- The items that stand for a text. -/
def literalItems (text : List Char) : List Item :=
  (collapsed text).map fun c => if c = ' ' then .blank else .char c

theorem literalItems_blank {c : Char} (hc : Text.isBlank c = true) (text : List Char) :
    literalItems (c :: text) = .blank :: literalItems (text.dropWhile Text.isBlank) := by
  simp [literalItems, collapsed_blank hc]

theorem literalItems_char {c : Char} (hc : Text.isBlank c = false) (text : List Char) :
    literalItems (c :: text) = .char c :: literalItems text := by
  have hne : c ≠ ' ' := by
    rintro rfl
    cases hc
  simp [literalItems, collapsed_char hc, hne]

/-- No sign of a quoted text is anything but a character that stands for itself. -/
theorem itemsOfSigns_quotedSigns (items : List Item) (text : List Char) :
    itemsOfSigns items none (quotedSigns text) =
      .ok (items.reverse ++
        literalItems (if endsBlank items then text.dropWhile Text.isBlank else text)) := by
  induction text generalizing items with
  | nil => simp [quotedSigns, itemsOfSigns, literalItems, collapsed]
  | cons c text ih =>
    have hstep : itemsOfSigns items none (quotedSigns (c :: text)) =
        itemsOfSigns (pushChar items c) none (quotedSigns text) := by
      rw [quotedSigns, List.map_cons, itemsOfSigns]
      cases hd : isDelimiter c with
      | true => rfl
      | false =>
        simp only [isDelimiter, Bool.or_eq_false_iff, beq_eq_false_iff_ne] at hd
        simp [hd, quotedSigns]
    rw [hstep, ih]
    rcases pushChar_cases items c with ⟨hc, hitems, hpush⟩ | ⟨hc, hitems, hpush⟩ | ⟨hc, hpush⟩ <;>
      rw [hpush]
    · simp [hitems, hc]
    · simp [hitems, literalItems_blank hc]
    · simp [hc, literalItems_char hc]

/-- The items of a quoted text stand for its characters and for its white space. -/
theorem readItems_quoted (text : String) :
    readItems (quotedText text) = .ok (literalItems text.toList) := by
  rw [readItems, readItemsFrom_eq, readSigns_quoted, itemsOfSigns_quotedSigns]
  rfl

/-! ## What quoted texts match -/

theorem takeAll_char {c : Char} {items : List Item} {text : List Char} :
    takeAll (.char c :: items) text ↔ ∃ rest, text = c :: rest ∧ takeAll items rest := by
  cases text with
  | nil => simp [takeAll, Item.lengths, oneChar]
  | cons d rest =>
    by_cases hd : d = c
    · simp [takeAll, Item.lengths, oneChar, hd]
    · simp [takeAll, Item.lengths, oneChar, hd]

theorem takeAll_blank {items : List Item} {text : List Char} :
    takeAll (.blank :: items) text ↔
      ∃ n, 1 ≤ n ∧ n ≤ runLength Text.isBlank text ∧ takeAll items (text.drop n) := by
  simp [takeAll, Item.lengths, mem_longestFirst, and_assoc]

theorem literalItems_blanks {v : List Char} (hv : v ≠ []) (hvs : ∀ c ∈ v, Text.isBlank c = true)
    (text : List Char) :
    literalItems (v ++ text) = .blank :: literalItems (text.dropWhile Text.isBlank) := by
  obtain ⟨c, v, rfl⟩ := List.exists_cons_of_ne_nil hv
  obtain ⟨hc, hvs⟩ := List.forall_mem_cons.mp hvs
  rw [List.cons_append, literalItems_blank hc, List.dropWhile_append_of_pos hvs]

theorem reflowed_of_takeAll {text text' : List Char} (h : takeAll (literalItems text) text') :
    Reflowed text text' := by
  induction text generalizing text' with
  | nil =>
    obtain rfl : text' = [] := h
    exact .nil
  | cons c text ih =>
    cases hc : Text.isBlank c with
    | true =>
      rw [literalItems_blank hc] at h
      rcases head_blank_cases text with ⟨d, rest, rfl, hd⟩ | ⟨-, hdrop⟩
      · rw [List.dropWhile_cons_of_pos hd, ← literalItems_blank hd] at h
        exact (ih h).cons_left hc hd
      · rw [hdrop] at h
        obtain ⟨n, hn, hrun, h⟩ := takeAll_blank.mp h
        have hlength : (text'.take n).length = n :=
          List.length_take_of_le (Nat.le_trans hrun (runLength_le_length _ _))
        have hne : text'.take n ≠ [] := List.ne_nil_of_length_pos (by omega)
        rw [← List.take_append_drop n text']
        exact .blanks (v := [c]) (by simp) (by simpa) hne (forall_mem_take hrun) (ih h)
    | false =>
      rw [literalItems_char hc] at h
      obtain ⟨rest, rfl, hrest⟩ := takeAll_char.mp h
      exact .char hc (ih hrest)

theorem takeAll_of_reflowed {text text' : List Char} (h : Reflowed text text') :
    takeAll (literalItems text) text' := by
  induction h with
  | nil => rfl
  | char hc h ih =>
    rw [literalItems_char hc]
    exact takeAll_char.mpr ⟨_, rfl, ih⟩
  | @blanks v w s t hv hvs hw hws h ih =>
    have hpos : 1 ≤ w.length := List.length_pos_of_ne_nil hw
    rw [literalItems_blanks hv hvs, takeAll_blank]
    rcases head_blank_cases s with ⟨c, rest, rfl, hc⟩ | ⟨-, hdrop⟩
    -- White space that goes on is taken together with the run that follows.
    · rw [literalItems_blank hc] at ih
      obtain ⟨n, hn, hrun, ih⟩ := takeAll_blank.mp ih
      refine ⟨w.length + n, by omega, ?_, ?_⟩
      · rw [runLength_append hws]
        omega
      · rwa [List.dropWhile_cons_of_pos hc, ← List.drop_drop, List.drop_left]
    · refine ⟨w.length, hpos, ?_, ?_⟩
      · rw [runLength_append hws]
        omega
      · rwa [hdrop, List.drop_left]

/-- A quoted text takes all of another text if the two differ in the amounts of white space only. -/
theorem takeAll_literalItems (text text' : List Char) :
    takeAll (literalItems text) text' ↔ Reflowed text text' :=
  ⟨reflowed_of_takeAll, takeAll_of_reflowed⟩

/-- A quoted text is a simple expression without groups, and it matches exactly the texts that
differ from the quoted one in the amounts of white space only. -/
theorem quoted_matchesWhole (text : String) :
    ∃ pattern tree, simplePattern (quotedText text) = .ok pattern ∧
      Tree.read pattern.toList = .ok tree ∧ tree.groups = [] ∧
      ∀ text' : String,
        tree.matchesWhole text'.toList = true ↔ Reflowed text.toList text'.toList := by
  have hitems := readItems_quoted text
  have hnames : placeholderNames (literalItems text.toList) = [] := by
    rw [placeholderNames, List.filterMap_eq_nil_iff]
    intro item hitem
    obtain ⟨c, -, rfl⟩ := List.mem_map.mp hitem
    split_ifs <;> rfl
  refine ⟨String.ofList (patternOf (literalItems text.toList)), treeOf (literalItems text.toList),
    ?_, ?_, ?_, fun text' => ?_⟩
  · rw [simplePattern, hitems]
    rfl
  · rw [String.toList_ofList, read_patternOf (properNames_readItems hitems)]
  · rw [treeOf, groups_treesFrom, hnames]
    rfl
  · rw [matchesWhole_treeOf, takeAll_literalItems]

end Dossier
