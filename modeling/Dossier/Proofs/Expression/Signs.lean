import Dossier.Proofs.Expression.Names
import Mathlib.Data.List.Chain
import Mathlib.Data.List.DropRight
import Mathlib.Data.List.TakeWhile

/-!
# Signs of simple expressions

A simple expression can be read in two steps: its text as signs, of which some are escaped, and the
signs as items. Signs can be written again, and are read back as long as no backslash comes to stand
in front of a wildcard or bracket.

* `itemsOfSigns`, `readItemsFrom_eq` : the items of a text are those of its signs;
* `Readable`, `readSigns_written` : signs that are read back from their text;
* `splitColons_eq`, `trim_append` : how the text between two angle brackets is taken apart.
-/

namespace Dossier

/-! ## Items of signs -/

/-- Reads items from signs, given those before in reverse and, inside a placeholder, the characters
since its opening bracket in reverse. -/
def itemsOfSigns (items : List Item) (body : Option (List Char)) :
    List Sign → Except ExpressionError (List Item)
  | [] => if body.isSome then .error .unterminated else .ok items.reverse
  | s :: signs =>
    match body with
    | some b =>
      if s = ⟨'>', false⟩ then
        match readPlaceholder (placeholderNames items) b.reverse with
        | .ok item => itemsOfSigns (item :: items) none signs
        | .error e => .error e
      else itemsOfSigns items (some (s.char :: b)) signs
    | none =>
      if s.escaped then itemsOfSigns (pushChar items s.char) none signs
      else if s.char = '<' then itemsOfSigns items (some []) signs
      else if s.char = '*' then itemsOfSigns (.anyText :: items) none signs
      else if s.char = '?' then itemsOfSigns (.anyChar :: items) none signs
      else if s.char = '>' then itemsOfSigns items none signs
      else itemsOfSigns (pushChar items s.char) none signs

/-- The items of a text are those of its signs. -/
theorem readItemsFrom_eq (items : List Item) (body : Option (List Char)) (text : List Char) :
    readItemsFrom items body text = itemsOfSigns items body (readSigns text) := by
  fun_induction readItemsFrom items body text with
  | case1 _ _ h => rw [readSigns, itemsOfSigns, if_pos h]
  | case2 _ _ h => rw [readSigns, itemsOfSigns, if_neg h]
  -- After a backslash, inside a placeholder and outside.
  | case3 _ _ _ hd _ ih =>
    rw [ih, readSigns, if_pos hd]
    simp [itemsOfSigns]
  | case4 _ _ _ hd ih =>
    rw [ih, readSigns, if_pos hd]
    simp [itemsOfSigns]
  | case5 _ _ _ hd _ ih =>
    rw [ih, readSigns, if_neg hd]
    simp [itemsOfSigns]
  | case6 _ _ _ hd ih =>
    rw [ih, readSigns, if_neg hd]
    simp [itemsOfSigns]
  -- The end of a placeholder.
  | case7 _ _ _ _ hitem hc ih =>
    rw [ih, readSigns_cons hc]
    simp [itemsOfSigns, hitem]
  | case8 _ _ _ _ herror hc =>
    rw [readSigns_cons hc]
    simp [itemsOfSigns, herror]
  | case9 _ _ _ hc _ hne ih =>
    rw [ih, readSigns_cons hc]
    simp [itemsOfSigns, hne]
  -- Between placeholders.
  | case10 _ _ hc ih =>
    rw [ih, readSigns_cons hc]
    simp [itemsOfSigns]
  | case11 _ _ hc _ ih =>
    rw [ih, readSigns_cons hc]
    simp [itemsOfSigns]
  | case12 _ _ hc _ _ ih =>
    rw [ih, readSigns_cons hc]
    simp [itemsOfSigns]
  | case13 _ _ hc _ _ _ ih =>
    rw [ih, readSigns_cons hc]
    simp [itemsOfSigns]
  | case14 _ _ _ hc h1 h2 h3 h4 ih =>
    rw [ih, readSigns_cons hc]
    simp [itemsOfSigns, h1, h2, h3, h4]

/-! ## Writing signs -/

/-- A sign as it is written. -/
def Sign.written (s : Sign) : List Char := if s.escaped then ['\\', s.char] else [s.char]

/-- A character that is written without a backslash in front. -/
def Sign.plain (c : Char) : Sign := ⟨c, false⟩

/-- Whether one sign can be written in front of another: no backslash of its own in front of a
character that it would escape. -/
def Sign.MayPrecede (s t : Sign) : Prop :=
  s = ⟨'\\', false⟩ → t.escaped = false → isDelimiter t.char = false

/-- Signs that can be written in a row. Only wildcards and brackets are escaped. -/
structure Readable (signs : List Sign) : Prop where
  escaped : ∀ s ∈ signs, s.escaped = true → isDelimiter s.char = true
  chain : signs.IsChain Sign.MayPrecede

theorem Readable.tail {s : Sign} {signs : List Sign} (h : Readable (s :: signs)) :
    Readable signs :=
  ⟨fun t ht => h.escaped t (List.mem_cons_of_mem _ ht), h.chain.tail⟩

/-- Signs that can be written in a row are read back. -/
theorem readSigns_written {signs : List Sign} (h : Readable signs) :
    readSigns (signs.flatMap Sign.written) = signs := by
  induction signs with
  | nil => rfl
  | cons s signs ih =>
    have ih := ih h.tail
    obtain ⟨c, escaped⟩ := s
    cases escaped with
    | true =>
      have hd : isDelimiter c = true := h.escaped _ List.mem_cons_self rfl
      show readSigns ('\\' :: c :: signs.flatMap Sign.written) = _
      rw [readSigns, if_pos hd, ih]
    | false =>
      show readSigns (c :: signs.flatMap Sign.written) = _
      by_cases hc : c = '\\'
      · subst hc
        cases signs with
        | nil => rfl
        | cons t signs =>
          -- What is written next is no character that the backslash would escape.
          have hnext : ∃ d rest, (t :: signs).flatMap Sign.written = d :: rest ∧
              isDelimiter d = false := by
            obtain ⟨d, escaped⟩ := t
            cases escaped with
            | true => exact ⟨'\\', _, rfl, rfl⟩
            | false => exact ⟨d, _, rfl, (List.isChain_cons_cons.mp h.chain).1 rfl rfl⟩
          obtain ⟨d, rest, hrest, hd⟩ := hnext
          rw [hrest] at ih ⊢
          rw [readSigns, if_neg (by simp [hd]), ih]
      · rw [readSigns_cons (fun _ _ h _ => hc h), ih]

theorem Readable.cons {s : Sign} {signs : List Sign} (h : Readable signs)
    (hs : s.escaped = true → isDelimiter s.char = true)
    (hnext : ∀ t ∈ signs.head?, s.MayPrecede t) : Readable (s :: signs) where
  escaped := by
    intro t ht
    rcases List.mem_cons.mp ht with rfl | ht
    · exact hs
    · exact h.escaped t ht
  chain := List.isChain_cons.mpr ⟨hnext, h.chain⟩

/-- A sign that is no backslash of its own can be written in front of every other one. -/
theorem Sign.mayPrecede_of_ne {s : Sign} (h : s ≠ ⟨'\\', false⟩) (t : Sign) : s.MayPrecede t :=
  fun hs => absurd hs h

/-- The signs of a text can be written in a row. -/
theorem readable_readSigns (text : List Char) : Readable (readSigns text) := by
  fun_induction readSigns text with
  | case1 => exact ⟨by simp, .nil⟩
  | case2 d rest hd ih => exact ih.cons (fun _ => hd) fun t _ => Sign.mayPrecede_of_ne (by simp) t
  | case3 d rest hd ih =>
    refine ih.cons (by simp) fun t ht _ hplain => ?_
    -- The next sign is escaped, or it is the character itself.
    rw [readSigns.eq_def] at ht
    split at ht
    · cases ht
    · split at ht <;> obtain rfl := Option.mem_some.mp ht
      · cases hplain
      · simp_all
    · obtain rfl := Option.mem_some.mp ht
      simp_all
  | case4 c rest hc ih =>
    refine ih.cons (by simp) fun t ht hs => ?_
    obtain rfl : c = '\\' := by simpa using hs
    cases rest with
    | nil => simp [readSigns] at ht
    | cons d rest => exact (hc d rest rfl rfl).elim

/-! ## Placeholders -/

theorem splitColons_eq (s : List Char) : splitColons s = s.splitOn ':' := by
  induction s with
  | nil => rfl
  | cons c rest ih =>
    rw [splitColons, List.splitOn_cons_eq_if_modifyHead, ← ih]
    by_cases hc : c = ':'
    · simp [hc]
    · cases hrest : splitColons rest with
      | nil => simp [hrest, List.splitOn_ne_nil] at ih
      | cons part parts => simp [hc]

theorem not_mem_of_mem_splitColons {s part : List Char} (h : part ∈ splitColons s) :
    ':' ∉ part := by
  fun_induction splitColons s generalizing part with
  | case1 =>
    obtain rfl := List.mem_singleton.mp h
    exact List.not_mem_nil
  | case2 rest ih =>
    rcases List.mem_cons.mp h with rfl | h
    · exact List.not_mem_nil
    · exact ih h
  | case3 c rest hc part' parts hrest ih =>
    rw [hrest] at ih
    rcases List.mem_cons.mp h with rfl | h
    · exact List.not_mem_cons_of_ne_of_not_mem (Ne.symm hc) (ih List.mem_cons_self)
    · exact ih (List.mem_cons_of_mem _ h)
  | case4 c rest hc hrest ih =>
    obtain rfl := List.mem_singleton.mp h
    simpa using Ne.symm hc

/-! ## Blanks at the ends -/

/-- A text is what is left of it without the blanks at its two ends, between these blanks. -/
theorem exists_append_trim (s : List Char) :
    ∃ trail, (∀ c ∈ trail, Text.isBlank c = true) ∧
      s = s.takeWhile Text.isBlank ++ Text.trim s ++ trail := by
  refine ⟨(Text.trimStart s).rtakeWhile Text.isBlank, fun c hc => ?_, ?_⟩
  · exact List.mem_takeWhile_imp (List.mem_reverse.mp hc)
  · have hend : Text.trim s ++ (Text.trimStart s).rtakeWhile Text.isBlank = Text.trimStart s :=
      List.rdropWhile_append_rtakeWhile
    rw [List.append_assoc, hend, Text.trimStart, List.takeWhile_append_dropWhile]

/-- Blanks around a text that neither starts nor ends with one are taken away. -/
theorem trim_append {lead text trail : List Char} (hlead : ∀ c ∈ lead, Text.isBlank c = true)
    (htrail : ∀ c ∈ trail, Text.isBlank c = true) (hne : text ≠ [])
    (hfirst : Text.isBlank (text.head hne) = false)
    (hlast : Text.isBlank (text.getLast hne) = false) :
    Text.trim (lead ++ text ++ trail) = text := by
  have hstart : Text.trimStart (lead ++ text ++ trail) = text ++ trail := by
    rw [Text.trimStart, List.append_assoc, List.dropWhile_append_of_pos hlead]
    obtain ⟨c, rest, rfl⟩ := List.exists_cons_of_ne_nil hne
    exact List.dropWhile_cons_of_neg (by simpa using hfirst)
  rw [Text.trim, hstart, Text.trimEnd, List.reverse_append,
    List.dropWhile_append_of_pos fun c hc => htrail c (List.mem_reverse.mp hc)]
  have hend : text.rdropWhile Text.isBlank = text :=
    List.rdropWhile_eq_self_iff.mpr fun h => by simp [hlast]
  exact hend

end Dossier
