import Dossier.Proofs.Json.Tokens
import Mathlib.Data.List.DropRight

/-!
# Reading texts of values

A text of a value is read as this value in front of all that can follow it. From texts of the
elements of an array and of the members of an object, with blanks in front of them and in front of
the closing bracket, a text of the whole is made.

* `ReadsKeys` : keys that are read from their texts;
* `Spells` : a text that is read as a value if the value is not nested too deep;
* `joined` : texts with commas between them;
* `spells_arr`, `spells_obj` : arrays and objects;
* `Spells.read?` : a whole text.
-/

namespace Dossier.Json

/-- Keys are read from their texts in quotation marks. -/
def ReadsKeys (readKey : List Char → Option (List Char × List Char)) : Prop :=
  ∀ key rest, readKey (key.flatMap quoteChar ++ '"' :: rest) = some (key, rest)

variable {readKey : List Char → Option (List Char × List Char)}

/-- The text is read as the value in front of all that can follow it, if the value is not nested
too deep and keys are read from their texts. -/
def Spells (text : List Char) (j : Json) : Prop :=
  ∀ ⦃readKey⦄, ReadsKeys readKey → ∀ fuel depth rest, text.length ≤ fuel → NumberEnds rest →
    readValue readKey fuel depth (text ++ rest) = if j.depth ≤ depth then some (j, rest) else none

/-! ## Blanks -/

section Blanks

variable {blanks : List Char}

theorem skipJsonBlanks_cons {c : Char} (h : isJsonBlank c = false) (rest : List Char) :
    skipJsonBlanks (c :: rest) = c :: rest := List.dropWhile_cons_of_neg (by simp [h])

theorem skipJsonBlanks_append (h : ∀ c ∈ blanks, isJsonBlank c = true) (rest : List Char) :
    skipJsonBlanks (blanks ++ rest) = skipJsonBlanks rest :=
  List.dropWhile_append_of_pos h

theorem skipJsonBlanks_skip (s : List Char) :
    skipJsonBlanks (skipJsonBlanks s) = skipJsonBlanks s :=
  List.dropWhile_idempotent isJsonBlank s

theorem skipJsonBlanks_comma (rest : List Char) : skipJsonBlanks (',' :: rest) = ',' :: rest :=
  skipJsonBlanks_cons (by decide) rest

theorem skipJsonBlanks_bracket (rest : List Char) : skipJsonBlanks (']' :: rest) = ']' :: rest :=
  skipJsonBlanks_cons (by decide) rest

theorem skipJsonBlanks_brace (rest : List Char) : skipJsonBlanks ('}' :: rest) = '}' :: rest :=
  skipJsonBlanks_cons (by decide) rest

/-- Blanks in front of a value change nothing. -/
theorem readValue_skip (fuel depth : Nat) (s : List Char) :
    readValue readKey fuel depth (skipJsonBlanks s) = readValue readKey fuel depth s := by
  cases fuel with
  | zero => rfl
  | succ fuel => rw [readValue, readValue, skipJsonBlanks_skip]

theorem readElements_skip (fuel depth : Nat) (s : List Char) :
    readElements readKey fuel depth (skipJsonBlanks s) = readElements readKey fuel depth s := by
  cases fuel with
  | zero => rfl
  | succ fuel => rw [readElements, readElements, readValue_skip]

theorem readMembers_skip (fuel depth : Nat) (s : List Char) :
    readMembers readKey fuel depth (skipJsonBlanks s) = readMembers readKey fuel depth s := by
  cases fuel with
  | zero => rfl
  | succ fuel => rw [readMembers, readMembers, skipJsonBlanks_skip]

theorem Spells.behind {text : List Char} {j : Json} (h : Spells text j)
    (hblanks : ∀ c ∈ blanks, isJsonBlank c = true) : Spells (blanks ++ text) j := by
  intro readKey hkeys fuel depth rest hfuel hrest
  rw [List.length_append] at hfuel
  rw [List.append_assoc, ← readValue_skip, skipJsonBlanks_append hblanks, readValue_skip]
  exact h hkeys fuel depth rest (by omega) hrest

/-- Blanks and what closes an array or an object can follow a number. -/
theorem NumberEnds.behind {c : Char} (hblanks : ∀ c ∈ blanks, isJsonBlank c = true)
    (hc : c = ',' ∨ c = ']' ∨ c = '}') (rest : List Char) : NumberEnds (blanks ++ c :: rest) := by
  cases blanks with
  | nil => exact .cons hc rest
  | cons b blanks =>
    intro d hd
    obtain rfl := Option.some.inj hd
    have hb := hblanks b List.mem_cons_self
    simp only [isJsonBlank, Bool.or_eq_true, beq_iff_eq] at hb
    rcases hb with ((rfl | rfl) | rfl) | rfl <;> decide

end Blanks

/-! ## Simple values -/

/-- A number starts with a digit or a minus sign. -/
theorem head_of_readNumber {s : List Char} {r : Json × List Char} (h : readNumber s = some r) :
    ∃ c rest, s = c :: rest ∧ (c = '-' ∨ c.isDigit = true) := by
  cases s with
  | nil => cases h
  | cons c s =>
    refine ⟨c, s, rfl, ?_⟩
    by_contra hc
    rw [not_or] at hc
    have hspan : spanDigits (c :: s) = ([], c :: s) := by
      simp [spanDigits, List.span_eq_takeWhile_dropWhile, hc.2]
    have hplain : readNumber (c :: s) = readUnsigned false (c :: s) := by
      unfold readNumber
      split
      · simp_all
      · rfl
    rw [hplain, readUnsigned_eq, hspan] at h
    cases h

/-- A sign that is neither a digit nor a minus sign starts no number. -/
theorem ne_of_numeric {c d : Char} (hc : c = '-' ∨ c.isDigit = true)
    (hd : d ≠ '-' ∧ d.isDigit = false) : c ≠ d := by
  rintro rfl
  rcases hc with hc | hc
  · exact hd.1 hc
  · rw [hd.2] at hc
    cases hc

theorem isJsonBlank_of_numeric {c : Char} (hc : c = '-' ∨ c.isDigit = true) :
    isJsonBlank c = false := by
  simp [isJsonBlank, ne_of_numeric (d := ' ') hc (by decide),
    ne_of_numeric (d := '\n') hc (by decide), ne_of_numeric (d := '\t') hc (by decide),
    ne_of_numeric (d := '\r') hc (by decide)]

/-- A number is read as a value. -/
theorem readValue_number {s rest : List Char} {j : Json} (h : readNumber s = some (j, []))
    (hrest : NumberEnds rest) (fuel depth : Nat) :
    readValue readKey (fuel + 1) depth (s ++ rest) = some (j, rest) := by
  obtain ⟨c, t, rfl, hc⟩ := head_of_readNumber h
  have hread := readNumber_append h hrest
  rw [List.cons_append] at hread ⊢
  rw [readValue, skipJsonBlanks_cons (isJsonBlank_of_numeric hc)]
  split
  case h_7 => exact hread
  all_goals
    rename_i hfirst
    exact absurd (List.cons.inj hfirst).1 (ne_of_numeric hc (by decide))

/-- Reading a value takes at least one step. -/
theorem Spells.of_succ {text : List Char} {j : Json} (hne : text ≠ [])
    (h : ∀ ⦃readKey⦄, ReadsKeys readKey → ∀ fuel depth rest, text.length ≤ fuel + 1 →
      NumberEnds rest → readValue readKey (fuel + 1) depth (text ++ rest) =
        if j.depth ≤ depth then some (j, rest) else none) : Spells text j := by
  intro readKey hkeys fuel depth rest hfuel hrest
  have hpos := List.length_pos_iff.mpr hne
  obtain ⟨fuel, rfl⟩ : ∃ k, fuel = k + 1 := ⟨fuel - 1, by omega⟩
  exact h hkeys fuel depth rest hfuel hrest

/-- Numbers are read from their texts. -/
theorem Spells.of_number {text : List Char} {j : Json} (h : readNumber text = some (j, []))
    (hdepth : j.depth = 0) : Spells text j := by
  refine .of_succ ?_ fun readKey _ fuel depth rest _ hrest => ?_
  · obtain ⟨c, rest, rfl, -⟩ := head_of_readNumber h
    exact List.cons_ne_nil c rest
  · rw [readValue_number h hrest, hdepth, if_pos (Nat.zero_le depth)]

theorem spells_null : Spells ['n', 'u', 'l', 'l'] null :=
  .of_succ (List.cons_ne_nil _ _) fun _ _ _ _ _ _ _ => rfl

theorem spells_true : Spells ['t', 'r', 'u', 'e'] (bool true) :=
  .of_succ (List.cons_ne_nil _ _) fun _ _ _ _ _ _ _ => rfl

theorem spells_false : Spells ['f', 'a', 'l', 's', 'e'] (bool false) :=
  .of_succ (List.cons_ne_nil _ _) fun _ _ _ _ _ _ _ => rfl

theorem spells_int {n : Int} (hlow : -(twoTo 63 : Int) ≤ n) (hhigh : n < twoTo 64) :
    Spells (intText n) (int n) := by
  have hread := readNumber_intText hlow hhigh .nil
  rw [List.append_nil] at hread
  exact .of_number hread rfl

/-- After a quotation mark a string is read. -/
theorem readValue_quote (fuel depth : Nat) (rest : List Char) :
    readValue readKey (fuel + 1) depth ('"' :: rest) =
      (readString rest).map fun (text, rest) => (str (String.ofList text), rest) := rfl

/-- After an opening bracket elements are read, if nothing closes the array at once. -/
theorem readValue_bracket (fuel depth : Nat) (rest : List Char) :
    readValue readKey (fuel + 1) depth ('[' :: rest) =
      if depth = 0 then none
      else match skipJsonBlanks rest with
        | ']' :: rest => some (arr [], rest)
        | rest =>
          (readElements readKey fuel (depth - 1) rest).map fun (elements, rest) =>
            (arr elements, rest) := rfl

/-- After an opening brace members are read, if nothing closes the object at once. -/
theorem readValue_brace (fuel depth : Nat) (rest : List Char) :
    readValue readKey (fuel + 1) depth ('{' :: rest) =
      if depth = 0 then none
      else match skipJsonBlanks rest with
        | '}' :: rest => some (obj [], rest)
        | rest =>
          (readMembers readKey fuel (depth - 1) rest).map fun (members, rest) =>
            (obj members, rest) := rfl

theorem spells_str (s : String) : Spells (quote s.toList) (str s) := by
  refine .of_succ (List.cons_ne_nil _ _) fun readKey _ fuel depth rest _ _ => ?_
  have htext : quote s.toList ++ rest = '"' :: (s.toList.flatMap quoteChar ++ '"' :: rest) := by
    simp [quote]
  rw [htext, readValue_quote, Json.depth]
  simp [readString_quote]

/-! ## Arrays and objects -/

/-- Texts with commas between them. -/
def joined : List (List Char) → List Char
  | [] => []
  | [text] => text
  | text :: rest => text ++ ',' :: joined rest

theorem joined_cons (text next : List Char) (others : List (List Char)) :
    joined (text :: next :: others) = text ++ ',' :: joined (next :: others) := rfl

theorem length_le_joined (text : List Char) (others : List (List Char)) :
    text.length ≤ (joined (text :: others)).length := by
  cases others with
  | nil => exact Nat.le_refl _
  | cons next others => simp [joined_cons]

/-- Behind its blanks, the text of a value starts with no closing bracket. -/
theorem Spells.head {text : List Char} {j : Json} (h : Spells text j) :
    ∃ c rest, skipJsonBlanks text = c :: rest ∧ c ≠ ']' := by
  have hread := h readString_quote (text.length + 1) j.depth [] (Nat.le_succ _) .nil
  rw [List.append_nil, if_pos (Nat.le_refl _), ← readValue_skip] at hread
  cases hskip : skipJsonBlanks text with
  | nil =>
    rw [hskip] at hread
    cases hread
  | cons c rest =>
    refine ⟨c, rest, rfl, ?_⟩
    rintro rfl
    rw [hskip] at hread
    have hnumber : readNumber (']' :: rest) = some (j, []) := hread
    obtain ⟨d, t, hd, hnumeric⟩ := head_of_readNumber hnumber
    exact ne_of_numeric hnumeric (by decide) (List.cons.inj hd).1.symm

/-- What stands behind blanks is not changed by what follows. -/
theorem skipJsonBlanks_append_of_cons {s rest : List Char} {c : Char} {t : List Char}
    (h : skipJsonBlanks s = c :: t) : skipJsonBlanks (s ++ rest) = c :: (t ++ rest) := by
  have hne : (s.dropWhile isJsonBlank).isEmpty = false := by
    rw [show s.dropWhile isJsonBlank = c :: t from h]
    rfl
  rw [skipJsonBlanks, List.dropWhile_append, hne, show s.dropWhile isJsonBlank = c :: t from h]
  rfl

section Nested

variable {blanks : List Char} (hblanks : ∀ c ∈ blanks, isJsonBlank c = true)

include hblanks

/-- Elements are read up to the closing bracket. -/
theorem readElements_joined (hkeys : ReadsKeys readKey) {spell : Json → List Char}
    {elements : List Json} (hne : elements ≠ []) (h : ∀ j ∈ elements, Spells (spell j) j)
    {fuel : Nat} (depth : Nat) (rest : List Char)
    (hfuel : (joined (elements.map spell)).length + 1 ≤ fuel) :
    readElements readKey fuel depth (joined (elements.map spell) ++ (blanks ++ ']' :: rest)) =
      if depthOfAll elements ≤ depth then some (elements, rest) else none := by
  induction elements generalizing fuel with
  | nil => exact absurd rfl hne
  | cons j others ih =>
    obtain ⟨fuel, rfl⟩ : ∃ k, fuel = k + 1 := ⟨fuel - 1, by omega⟩
    have hj := h j List.mem_cons_self
    have hlength := length_le_joined (spell j) (others.map spell)
    rw [List.map_cons] at hfuel
    cases others with
    | nil =>
      rw [List.map_cons, List.map_nil, joined, readElements,
        hj hkeys fuel depth _ (by omega) (.behind hblanks (.inr (.inl rfl)) _), depthOfAll,
        depthOfAll, Nat.max_zero]
      split_ifs with hdepth
      · simp only [skipJsonBlanks_append hblanks, skipJsonBlanks_bracket]
      · rfl
    | cons k others =>
      have hshort : (joined ((k :: others).map spell)).length + 1 ≤ fuel := by
        rw [List.map_cons, joined_cons, List.length_append, List.length_cons] at hfuel
        rw [List.map_cons]
        omega
      have hothers := ih (List.cons_ne_nil k others) (fun i hi => h i (List.mem_cons_of_mem j hi))
        hshort
      rw [List.map_cons, List.map_cons, joined_cons, List.append_assoc, List.cons_append,
        readElements, hj hkeys fuel depth _ (by omega) (.cons (.inl rfl) _), depthOfAll]
      by_cases hdepth : j.depth ≤ depth
      · rw [List.map_cons] at hothers
        simp only [hdepth, if_true, skipJsonBlanks_comma, hothers, Nat.max_le, true_and]
        split_ifs <;> rfl
      · rw [if_neg hdepth, if_neg (by omega)]

/-- Texts of elements make a text of the array. -/
theorem spells_arr {spell : Json → List Char} {elements : List Json}
    (h : ∀ j ∈ elements, Spells (spell j) j) :
    Spells ('[' :: (joined (elements.map spell) ++ (blanks ++ [']']))) (arr elements) := by
  refine .of_succ (List.cons_ne_nil _ _) fun readKey hkeys fuel depth rest hfuel _ => ?_
  have htext : '[' :: (joined (elements.map spell) ++ (blanks ++ [']'])) ++ rest =
      '[' :: (joined (elements.map spell) ++ (blanks ++ ']' :: rest)) := by simp
  simp only [List.length_cons, List.length_append] at hfuel
  rw [htext, readValue_bracket, Json.depth]
  cases depth with
  | zero => rfl
  | succ depth =>
    simp only [Nat.add_eq_zero_iff, Nat.one_ne_zero, and_false, if_false, Nat.add_sub_cancel,
      Nat.add_le_add_iff_right]
    cases elements with
    | nil =>
      simp only [List.map_nil, joined, List.nil_append, skipJsonBlanks_append hblanks,
        skipJsonBlanks_bracket]
      rw [depthOfAll, if_pos (Nat.zero_le _)]
    | cons j others =>
      have hread := readElements_joined hblanks hkeys (List.cons_ne_nil j others) h depth rest
        (show (joined ((j :: others).map spell)).length + 1 ≤ fuel by omega)
      -- Behind blanks, the first element starts with no closing bracket.
      obtain ⟨c, t, hfirst, hne⟩ : ∃ c t, skipJsonBlanks
          (joined ((j :: others).map spell) ++ (blanks ++ ']' :: rest)) = c :: t ∧ c ≠ ']' := by
        obtain ⟨c, t, hj, hne⟩ := (h j List.mem_cons_self).head
        cases others with
        | nil => exact ⟨c, _, skipJsonBlanks_append_of_cons hj, hne⟩
        | cons k others =>
          rw [List.map_cons, List.map_cons, joined_cons, List.append_assoc]
          exact ⟨c, _, skipJsonBlanks_append_of_cons hj, hne⟩
      rw [← readElements_skip, hfirst] at hread
      rw [hfirst]
      split
      · rename_i hbracket
        exact absurd (List.cons.inj hbracket).1 hne
      · rw [hread]
        split_ifs <;> rfl

end Nested

/-- The text is a key with a colon and a text of its value, with blanks in front. -/
def SpellsMember (text : List Char) (m : String × Json) : Prop :=
  ∃ blanks value, text = blanks ++ (quote m.1.toList ++ ':' :: value) ∧
    (∀ c ∈ blanks, isJsonBlank c = true) ∧ Spells value m.2

section Members

/-- Behind its blanks, a member starts with a quotation mark. -/
theorem SpellsMember.head {text : List Char} {m : String × Json} (h : SpellsMember text m) :
    ∃ rest, skipJsonBlanks text = '"' :: rest := by
  obtain ⟨blanks, value, rfl, hblanks, -⟩ := h
  rw [skipJsonBlanks_append hblanks]
  exact ⟨_, skipJsonBlanks_cons (by decide) _⟩

/-- A key with its colon is read in front of any text. -/
theorem readMembers_key (hkeys : ReadsKeys readKey) (fuel depth : Nat) (key : String)
    (rest : List Char) :
    readMembers readKey (fuel + 1) depth (quote key.toList ++ ':' :: rest) =
      match readValue readKey fuel depth rest with
      | none => none
      | some (value, rest) =>
        match skipJsonBlanks rest with
        | ',' :: rest =>
          (readMembers readKey fuel depth rest).map fun (others, rest) =>
            ((key, value) :: others, rest)
        | '}' :: rest => some ([(key, value)], rest)
        | _ => none := by
  have hquote : quote key.toList ++ ':' :: rest =
      '"' :: (key.toList.flatMap quoteChar ++ '"' :: ':' :: rest) := by simp [quote]
  have hstep := readMembers.eq_2 readKey depth
    ('"' :: (key.toList.flatMap quoteChar ++ '"' :: ':' :: rest)) fuel
  simp only [skipJsonBlanks_cons (show isJsonBlank '"' = false by decide), hkeys key.toList,
    skipJsonBlanks_cons (show isJsonBlank ':' = false by decide), String.ofList_toList] at hstep
  rw [hquote]
  exact hstep

/-- A member is read in front of all that can follow its value. -/
theorem SpellsMember.read {text rest : List Char} {key : String} {j : Json} {fuel depth : Nat}
    (h : SpellsMember text (key, j)) (hkeys : ReadsKeys readKey) (hfuel : text.length ≤ fuel)
    (hrest : NumberEnds rest) :
    readMembers readKey (fuel + 1) depth (text ++ rest) =
      if j.depth ≤ depth then
        match skipJsonBlanks rest with
        | ',' :: rest =>
          (readMembers readKey fuel depth rest).map fun (others, rest) => ((key, j) :: others, rest)
        | '}' :: rest => some ([(key, j)], rest)
        | _ => none
      else none := by
  obtain ⟨blanks, value, rfl, hblanks, hvalue⟩ := h
  simp only [List.length_append, List.length_cons] at hfuel
  rw [List.append_assoc, ← readMembers_skip, skipJsonBlanks_append hblanks, readMembers_skip,
    List.append_assoc, List.cons_append, readMembers_key hkeys,
    hvalue hkeys fuel depth rest (by omega) hrest]
  split_ifs <;> rfl

variable {blanks : List Char} (hblanks : ∀ c ∈ blanks, isJsonBlank c = true)

include hblanks

/-- Members are read up to the closing brace. -/
theorem readMembers_joined (hkeys : ReadsKeys readKey) {spell : String × Json → List Char}
    {members : List (String × Json)} (hne : members ≠ [])
    (h : ∀ m ∈ members, SpellsMember (spell m) m) {fuel : Nat} (depth : Nat) (rest : List Char)
    (hfuel : (joined (members.map spell)).length + 1 ≤ fuel) :
    readMembers readKey fuel depth (joined (members.map spell) ++ (blanks ++ '}' :: rest)) =
      if depthOfMembers members ≤ depth then some (members, rest) else none := by
  induction members generalizing fuel with
  | nil => exact absurd rfl hne
  | cons m others ih =>
    obtain ⟨key, j⟩ := m
    obtain ⟨fuel, rfl⟩ : ∃ k, fuel = k + 1 := ⟨fuel - 1, by omega⟩
    have hj := h (key, j) List.mem_cons_self
    have hlength := length_le_joined (spell (key, j)) (others.map spell)
    rw [List.map_cons] at hfuel
    cases others with
    | nil =>
      rw [List.map_cons, List.map_nil, joined,
        hj.read hkeys (by omega) (.behind hblanks (.inr (.inr rfl)) _), depthOfMembers,
        depthOfMembers, Nat.max_zero]
      simp only [skipJsonBlanks_append hblanks, skipJsonBlanks_brace]
    | cons k others =>
      have hshort : (joined ((k :: others).map spell)).length + 1 ≤ fuel := by
        rw [List.map_cons, joined_cons, List.length_append, List.length_cons] at hfuel
        rw [List.map_cons]
        omega
      have hothers := ih (List.cons_ne_nil k others) (fun m hm => h m (List.mem_cons_of_mem _ hm))
        hshort
      rw [List.map_cons] at hothers
      rw [List.map_cons, List.map_cons, joined_cons, List.append_assoc, List.cons_append,
        hj.read hkeys (by omega) (.cons (.inl rfl) _), depthOfMembers]
      simp only [skipJsonBlanks_comma, hothers, Nat.max_le]
      by_cases hdepth : j.depth ≤ depth
      · simp only [hdepth, if_true, true_and]
        split_ifs <;> rfl
      · rw [if_neg hdepth, if_neg (by omega)]

/-- Texts of members make a text of the object. -/
theorem spells_obj {spell : String × Json → List Char} {members : List (String × Json)}
    (h : ∀ m ∈ members, SpellsMember (spell m) m) :
    Spells ('{' :: (joined (members.map spell) ++ (blanks ++ ['}']))) (obj members) := by
  refine .of_succ (List.cons_ne_nil _ _) fun readKey hkeys fuel depth rest hfuel _ => ?_
  have htext : '{' :: (joined (members.map spell) ++ (blanks ++ ['}'])) ++ rest =
      '{' :: (joined (members.map spell) ++ (blanks ++ '}' :: rest)) := by simp
  simp only [List.length_cons, List.length_append] at hfuel
  rw [htext, readValue_brace, Json.depth]
  cases depth with
  | zero => rfl
  | succ depth =>
    simp only [Nat.add_eq_zero_iff, Nat.one_ne_zero, and_false, if_false, Nat.add_sub_cancel,
      Nat.add_le_add_iff_right]
    cases members with
    | nil =>
      simp only [List.map_nil, joined, List.nil_append, skipJsonBlanks_append hblanks,
        skipJsonBlanks_brace]
      rw [depthOfMembers, if_pos (Nat.zero_le _)]
    | cons m others =>
      have hread := readMembers_joined hblanks hkeys (List.cons_ne_nil m others) h depth rest
        (show (joined ((m :: others).map spell)).length + 1 ≤ fuel by omega)
      -- Behind blanks, the first member starts with a quotation mark.
      obtain ⟨t, hfirst⟩ : ∃ t, skipJsonBlanks
          (joined ((m :: others).map spell) ++ (blanks ++ '}' :: rest)) = '"' :: t := by
        obtain ⟨t, hm⟩ := (h m List.mem_cons_self).head
        cases others with
        | nil => exact ⟨_, skipJsonBlanks_append_of_cons hm⟩
        | cons k others =>
          rw [List.map_cons, List.map_cons, joined_cons, List.append_assoc]
          exact ⟨_, skipJsonBlanks_append_of_cons hm⟩
      rw [← readMembers_skip, hfirst] at hread
      rw [hfirst]
      show (readMembers readKey fuel depth ('"' :: t)).map _ = _
      rw [hread]
      split_ifs <;> rfl

end Members

/-! ## Whole texts -/

/-- A value is read from a whole text of it if it is not nested too deep, and else the text cannot
be read. -/
theorem Spells.readWith? {text : List Char} {j : Json} (h : Spells text j)
    (hkeys : ReadsKeys readKey) : readWith? readKey (String.ofList text) =
      if j.depth < nestingLimit then some j else none := by
  have hread := h hkeys (2 * text.length + 2) (nestingLimit - 1) [] (by omega) .nil
  rw [List.append_nil] at hread
  rw [Json.readWith?, readNestedWith?, String.toList_ofList, hread]
  have hlimit : nestingLimit = 128 := rfl
  by_cases hdepth : j.depth < nestingLimit
  · rw [if_pos hdepth, if_pos (by omega)]
    rfl
  · rw [if_neg hdepth, if_neg (by omega)]

end Dossier.Json
