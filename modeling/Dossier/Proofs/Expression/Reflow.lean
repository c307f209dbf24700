import Dossier.Proofs.Expression.Values

/-!
# Expressions in texts with other white space

White space in an expression stands for any amount of white space, so a text that is set in another
way should give the same values. It does as long as the expression does not ask for white space
twice with nothing but wildcards between: both runs may have to be found in one run of the text,
which is then too short if it is a single blank.

* `wellSpaced` : white space leads through wildcards to no other white space;
* `matchValues_reflowed` : such items have the same values in a text that is reflowed;
* `exists_blanks_sampleOf` : other items match a text that is lost if it is set more tightly;
* `find_reflowed` : an expression has the same values in all reflowed texts if and only if its
  items are well spaced.
-/

namespace Dossier

open Regex

/-! ## Well spaced items -/

/-- An item that takes either white space or anything else: no wildcard for a single character and
no number, which may hold spaces. -/
def Item.isSteady : Item → Bool
  | anyChar | placeholder _ (.number _) => false
  | _ => true

/-- Whether items start with white space, perhaps after wildcards. -/
def leadsToBlank : List Item → Bool
  | .blank :: _ => true
  | .anyText :: items => leadsToBlank items
  | _ => false

/-- Whether there is more than wildcards between any two runs of white space. -/
def wellSpaced : List Item → Bool
  | [] => true
  | .blank :: items => !leadsToBlank items && wellSpaced items
  | _ :: items => wellSpaced items

/-- What is known of the items that are read from a text: no character is white space. -/
def Item.Proper : Item → Prop
  | char c => Text.isBlank c = false
  | _ => True

theorem proper_of_mem_readItemsFrom {items items' : List Item} {body : Option (List Char)}
    {text : List Char} (h : readItemsFrom items body text = .ok items')
    (hitems : ∀ item ∈ items, item.Proper) : ∀ item ∈ items', item.Proper := by
  have hpush : ∀ (items : List Item) (c : Char), (∀ item ∈ items, item.Proper) →
      ∀ item ∈ pushChar items c, item.Proper := by
    intro items c hitems
    unfold pushChar
    split
    · split
      · exact hitems
      · exact List.forall_mem_cons.mpr ⟨trivial, hitems⟩
    · rename_i hc
      exact List.forall_mem_cons.mpr ⟨by simpa [Item.Proper] using hc, hitems⟩
  fun_induction readItemsFrom items body text with
  | case1 => cases h
  | case2 items body =>
    cases h
    simpa using hitems
  -- Characters inside a placeholder, brackets that open one, and those that close none.
  | case3 _ _ _ _ _ ih | case5 _ _ _ _ _ ih | case9 _ _ _ _ _ _ ih | case10 _ _ _ ih
  | case13 _ _ _ _ _ _ ih => exact ih h hitems
  | case4 _ _ _ _ ih | case6 _ _ _ _ ih | case14 _ _ _ _ _ _ _ _ ih =>
    exact ih h (hpush _ _ hitems)
  | case7 _ _ _ _ hitem _ ih =>
    obtain ⟨name, parts, capture, -, rfl, -⟩ := readPlaceholder_ok hitem
    exact ih h (List.forall_mem_cons.mpr ⟨trivial, hitems⟩)
  | case8 => cases h
  | case11 _ _ _ _ ih | case12 _ _ _ _ _ ih =>
    exact ih h (List.forall_mem_cons.mpr ⟨trivial, hitems⟩)

/-! ## Reflowed texts -/

theorem firstAt_reflowed {α : Type} {f : List Char → Option α}
    (hf : ∀ s t, Reflowed s t → f s = f t) {s t : List Char} (h : Reflowed s t) :
    firstAt f s = firstAt f t := by
  -- A run of white space gives what its first place gives.
  have hrun : ∀ v s, v ≠ [] → (∀ c ∈ v, Text.isBlank c = true) →
      firstAt f (v ++ s) = (f (v ++ s)).or (firstAt f s) := by
    intro v s hv hvs
    induction v with
    | nil => exact absurd rfl hv
    | cons c v ih =>
      obtain ⟨hc, hvs⟩ := List.forall_mem_cons.mp hvs
      rw [List.cons_append, firstAt]
      cases v with
      | nil => rfl
      | cons d v =>
        have hsame : f (c :: (d :: v ++ s)) = f (d :: v ++ s) :=
          hf _ _ ((Reflowed.refl (d :: (v ++ s))).cons_left hc (hvs d List.mem_cons_self))
        rw [ih (by simp) hvs, ← Option.or_assoc, hsame, Option.or_self]
  induction h with
  | nil => rfl
  | char hc h ih => rw [firstAt, firstAt, ih, hf _ _ (h.char hc)]
  | blanks hv hvs hw hws h ih =>
    rw [hrun _ _ hv hvs, hrun _ _ hw hws, ih, hf _ _ (h.blanks hv hvs hw hws)]

theorem matchValues_anyText (items : List Item) (text : List Char) :
    matchValues (.anyText :: items) text = firstAt (matchValues items) text := by
  rw [matchValues, ← firstAt_eq]
  congr 1
  funext n
  simp [Item.valued]

theorem matchValues_char (c : Char) (items : List Item) (text : List Char) :
    matchValues (.char c :: items) text =
      if text.head? = some c then matchValues items text.tail else none := by
  cases text with
  | nil => rfl
  | cons d rest =>
    by_cases hd : d = c
    · simp [matchValues, Item.lengths, oneChar, Item.valued, hd]
    · simp [matchValues, Item.lengths, oneChar, hd]

/-- The characters that a steady placeholder takes. -/
def Capture.members : Capture → CharSet
  | .word => .letter
  | _ => digitsAnd []

/-- Sets whose ranges lie apart have no character in common. -/
theorem contains_of_apart {s t : CharSet}
    (h : ∀ r ∈ s.ranges, ∀ q ∈ t.ranges, q.2 < r.1 ∨ r.2 < q.1) {c : Char}
    (hc : s.contains c = true) : t.contains c = false := by
  obtain ⟨r, hr, hrc⟩ := List.any_eq_true.mp hc
  refine List.any_eq_false.mpr fun q hq hqc => ?_
  simp only [Bool.and_eq_true, decide_eq_true_eq] at hrc hqc
  have := h r hr q hq
  omega

/-- White space is neither a letter nor a digit. -/
theorem contains_members_of_isBlank (capture : Capture) {c : Char}
    (hc : Text.isBlank c = true) : capture.members.contains c = false := by
  cases capture with
  | word => exact contains_of_apart (s := .blank) (t := .letter) (by decide +kernel) hc
  | int | number =>
    exact contains_of_apart (s := .blank) (t := digitsAnd []) (by decide +kernel) hc

theorem lengths_placeholder {name : String} {capture : Capture}
    (h : (Item.placeholder name capture).isSteady = true) (text : List Char) :
    (Item.placeholder name capture).lengths text =
      longestFirst 1 capture.members.contains text := by
  cases capture with
  | word => rfl
  | int =>
    show longestFirst 1 Char.isDigit text = longestFirst 1 (digitsAnd []).contains text
    rw [contains_digits]
  | number sign => cases h

/-- Items that start with anything but white space do not match later in a run of white space if
they do not match at its end. -/
theorem matchValues_blanks {items : List Item} (hsteady : ∀ item ∈ items, item.isSteady = true)
    (hproper : ∀ item ∈ items, item.Proper) (hleads : leadsToBlank items = false)
    {rest : List Char} (hnone : matchValues items rest = none) {blanks : List Char}
    (hblanks : ∀ c ∈ blanks, Text.isBlank c = true) :
    matchValues items (blanks ++ rest) = none := by
  induction items generalizing rest blanks with
  | nil => cases hnone
  | cons item items ih =>
    obtain ⟨hitem, hsteady'⟩ := List.forall_mem_cons.mp hsteady
    obtain ⟨hchar, hproper'⟩ := List.forall_mem_cons.mp hproper
    cases blanks with
    | nil => exact hnone
    | cons c blanks =>
      have hc := hblanks c List.mem_cons_self
      cases item with
      | char d =>
        have hd : c ≠ d := by
          rintro rfl
          cases hc.symm.trans hchar
        rw [matchValues_char, List.cons_append, List.head?_cons, if_neg (by simpa using hd)]
      | blank => cases hleads
      | anyText =>
        rw [matchValues_anyText] at hnone ⊢
        have hfirst : matchValues items rest = none := eq_none_of_firstAt hnone
        -- The items fail from each place in the run, and behind it as they did before.
        have hrun : ∀ run : List Char, (∀ c ∈ run, Text.isBlank c = true) →
            firstAt (matchValues items) (run ++ rest) = none := by
          intro run hblanks
          induction run with
          | nil => exact hnone
          | cons d run ihrun =>
            rw [List.cons_append, firstAt, Option.or_eq_none_iff]
            exact ⟨ih hsteady' hproper' hleads hfirst hblanks,
              ihrun (List.forall_mem_cons.mp hblanks).2⟩
        exact hrun _ hblanks
      | anyChar => cases hitem
      | placeholder name capture =>
        rw [matchValues, lengths_placeholder hitem, List.cons_append,
          longestFirst_one_neg (contains_members_of_isBlank capture hc), List.findSome?_nil]

/-- Behind white space items go on at the end of the run. -/
theorem matchValues_blank {items : List Item} (hsteady : ∀ item ∈ items, item.isSteady = true)
    (hproper : ∀ item ∈ items, item.Proper) (hleads : leadsToBlank items = false)
    (text : List Char) :
    matchValues (.blank :: items) text =
      if text.head?.any Text.isBlank then matchValues items (text.dropWhile Text.isBlank)
      else none := by
  have hvalued : ∀ n, (matchValues items (text.drop n)).map
      (Item.blank.valued (text.take n) ++ ·) = matchValues items (text.drop n) := by
    simp [Item.valued]
  simp only [matchValues, Item.lengths, hvalued]
  rcases head_blank_cases text with ⟨c, rest, rfl, hc⟩ | ⟨hhead, hnone⟩
  · have hpos : 1 ≤ runLength Text.isBlank (c :: rest) := by
      rw [runLength_cons_pos hc]
      omega
    have hend := drop_of_le_runLength (Nat.le_refl (runLength Text.isBlank (c :: rest)))
    rw [runLength, List.drop_length, List.nil_append, ← runLength] at hend
    rw [findSome?_longestFirst hpos, hend]
    · simp [hc]
    · intro hfail n hn
      rw [hend] at hfail
      rw [drop_of_le_runLength hn]
      exact matchValues_blanks hsteady hproper hleads hfail fun c hc =>
        List.mem_takeWhile_imp (List.mem_of_mem_drop hc)
  · have hzero : runLength Text.isBlank text = 0 := by
      cases text with
      | nil => rfl
      | cons c rest => exact runLength_cons_neg hhead
    simp [longestFirst, hzero, hhead]

theorem findSome?_congr {α β : Type} {l : List α} {f g : α → Option β}
    (h : ∀ a ∈ l, f a = g a) : l.findSome? f = l.findSome? g := by
  induction l with
  | nil => rfl
  | cons a l ih =>
    obtain ⟨ha, hl⟩ := List.forall_mem_cons.mp h
    rw [List.findSome?_cons, List.findSome?_cons, ha, ih hl]

theorem matchValues_reflowed {items : List Item} (hsteady : ∀ item ∈ items, item.isSteady = true)
    (hproper : ∀ item ∈ items, item.Proper) (hspaced : wellSpaced items = true)
    {s t : List Char} (h : Reflowed s t) : matchValues items s = matchValues items t := by
  induction items generalizing s t with
  | nil => rfl
  | cons item items ih =>
    obtain ⟨hitem, hsteady'⟩ := List.forall_mem_cons.mp hsteady
    obtain ⟨hchar, hproper'⟩ := List.forall_mem_cons.mp hproper
    cases item with
    | char c =>
      rw [matchValues_char, matchValues_char]
      cases h with
      | nil => rfl
      | char hd h =>
        rw [List.head?_cons, List.head?_cons, List.tail_cons, List.tail_cons,
          ih hsteady' hproper' hspaced h]
      | @blanks v w s t hv hvs hw hws h =>
        obtain ⟨d, v, rfl⟩ := List.exists_cons_of_ne_nil hv
        obtain ⟨e, w, rfl⟩ := List.exists_cons_of_ne_nil hw
        have hne : ∀ d, Text.isBlank d = true → some d ≠ some c := by
          rintro d hd ⟨⟩
          cases hd.symm.trans hchar
        rw [List.cons_append, List.cons_append, List.head?_cons, List.head?_cons,
          if_neg (hne d (hvs d List.mem_cons_self)), if_neg (hne e (hws e List.mem_cons_self))]
    | blank =>
      rw [wellSpaced, Bool.and_eq_true, Bool.not_eq_true'] at hspaced
      obtain ⟨hleads, hspaced'⟩ := hspaced
      rw [matchValues_blank hsteady' hproper' hleads, matchValues_blank hsteady' hproper' hleads,
        h.head, ih hsteady' hproper' hspaced' h.dropWhile]
    | anyText =>
      rw [matchValues_anyText, matchValues_anyText]
      exact firstAt_reflowed (fun _ _ h => ih hsteady' hproper' hspaced h) h
    | anyChar => cases hitem
    | placeholder name capture =>
      obtain ⟨hlength, hsplit⟩ := h.split_run (p := capture.members.contains)
        fun c hc => contains_members_of_isBlank capture hc
      have hlengths : longestFirst 1 capture.members.contains s =
          longestFirst 1 capture.members.contains t := by
        rw [longestFirst, longestFirst, hlength]
      rw [matchValues, matchValues, lengths_placeholder hitem, lengths_placeholder hitem,
        ← hlengths]
      refine findSome?_congr fun n hn => ?_
      obtain ⟨htaken, hrest⟩ := hsplit n (mem_longestFirst.mp hn).2
      rw [htaken, ih hsteady' hproper' hspaced hrest]

/-! ## Texts that are lost -/

/-- Items that match take a blank for each of their runs of white space. -/
theorem count_blank_le {items : List Item} {text : List Char}
    (h : matchValues items text ≠ none) : items.count .blank ≤ text.countP Text.isBlank := by
  induction items generalizing text with
  | nil => simp
  | cons item items ih =>
    obtain ⟨n, hn, hrest⟩ : ∃ n ∈ item.lengths text, matchValues items (text.drop n) ≠ none := by
      by_contra hno
      simp only [not_exists, not_and, not_not] at hno
      exact h (List.findSome?_eq_none_iff.mpr fun n hn => by rw [hno n hn]; rfl)
    have hcount : text.countP Text.isBlank =
        (text.take n).countP Text.isBlank + (text.drop n).countP Text.isBlank := by
      rw [← List.countP_append, List.take_append_drop]
    have hle := ih hrest
    cases item with
    | blank =>
      obtain ⟨hpos, hrun⟩ := mem_longestFirst.mp hn
      have htaken : (text.take n).countP Text.isBlank = n := by
        rw [List.countP_eq_length.mpr (forall_mem_take hrun),
          List.length_take_of_le (Nat.le_trans hrun (runLength_le_length _ _))]
      rw [List.count_cons_self]
      omega
    | char | anyText | anyChar | placeholder =>
      rw [List.count_cons_of_ne (by simp)]
      omega

theorem count_blank_le_firstAt {items : List Item} {text : List Char}
    (h : firstAt (matchValues items) text ≠ none) :
    items.count .blank ≤ text.countP Text.isBlank := by
  induction text with
  | nil => exact count_blank_le h
  | cons c rest ih =>
    by_cases hfirst : matchValues items (c :: rest) = none
    · rw [firstAt, hfirst, Option.none_or] at h
      exact Nat.le_trans (ih h) (List.sublist_cons_self c rest).countP_le
    · exact count_blank_le hfirst

theorem countP_sampleOf {items : List Item} (hproper : ∀ item ∈ items, item.Proper) :
    (sampleOf items).countP Text.isBlank = items.count .blank := by
  induction items with
  | nil => rfl
  | cons item items ih =>
    obtain ⟨hitem, hitems⟩ := List.forall_mem_cons.mp hproper
    have hsample : item.sample.countP Text.isBlank = [item].count .blank := by
      cases item with
      | char c =>
        have hc : Text.isBlank c = false := hitem
        simp [Item.sample, hc]
      | blank | anyText | anyChar => rfl
      | placeholder name capture =>
        cases capture with
        | word | int => rfl
        | number sign => cases sign <;> rfl
    have happend : sampleOf (item :: items) = item.sample ++ sampleOf items := rfl
    rw [happend, List.countP_append, hsample, ih hitems, ← List.count_append]
    rfl

/-- Items that are not well spaced have a sample with two blanks in a row. -/
theorem exists_blanks_sampleOf {items : List Item} (h : wellSpaced items = false) :
    ∃ front rest, sampleOf items = front ++ ' ' :: ' ' :: rest := by
  have hleads : ∀ items, leadsToBlank items = true → ∃ rest, sampleOf items = ' ' :: rest := by
    intro items
    fun_induction leadsToBlank items with
    | case1 items => exact fun _ => ⟨sampleOf items, rfl⟩
    | case2 items ih => exact ih
    | case3 => exact fun h => nomatch h
  fun_induction wellSpaced items with
  | case1 => cases h
  | case2 items ih =>
    rw [Bool.and_eq_false_iff, Bool.not_eq_false'] at h
    rcases h with h | h
    · obtain ⟨rest, hrest⟩ := hleads items h
      exact ⟨[], rest, congrArg (' ' :: ·) hrest⟩
    · obtain ⟨front, rest, hrest⟩ := ih h
      exact ⟨' ' :: front, rest, congrArg (' ' :: ·) hrest⟩
  | case3 item items _ ih =>
    obtain ⟨front, rest, hrest⟩ := ih h
    refine ⟨item.sample ++ front, rest, ?_⟩
    rw [List.append_assoc, ← hrest]
    rfl

/-- An expression without single wildcards and numbers has the same values in all texts that differ
in the amounts of white space if and only if there is more than wildcards between any two runs of
white space in it. -/
theorem find_reflowed {e : String} {limit : Nat} {c : Compiled} {items : List Item}
    (h : (Expression.simple e).compile limit = .ok c) (hitems : readItems e = .ok items)
    (hsteady : ∀ item ∈ items, item.isSteady = true) :
    (∀ text text' : String, Reflowed text.toList text'.toList →
      (c.find text).map GroupMatch.values = (c.find text').map GroupMatch.values) ↔
    wellSpaced items = true := by
  have hproper : ∀ item ∈ items, item.Proper :=
    proper_of_mem_readItemsFrom hitems (by simp)
  constructor
  · intro hsame
    by_contra hspaced
    obtain ⟨front, rest, hsample⟩ := exists_blanks_sampleOf (by simpa using hspaced)
    have hreflowed : Reflowed (sampleOf items) (front ++ ' ' :: rest) := by
      rw [hsample]
      exact .append_left front (.cons_left rfl rfl (.refl _))
    have hfound : firstAt (matchValues items) (sampleOf items) ≠ none := fun hnone =>
      matchValues_sampleOf items (eq_none_of_firstAt hnone)
    -- One of the blanks that the items need is missing.
    have hlost : firstAt (matchValues items) (front ++ ' ' :: rest) = none := by
      by_contra hsome
      have hle := count_blank_le_firstAt hsome
      have hcount := countP_sampleOf hproper
      have hblank : Text.isBlank ' ' = true := rfl
      rw [hsample] at hcount
      simp only [List.countP_append, List.countP_cons, hblank, if_true] at hcount hle
      omega
    have hvalues := hsame (String.ofList (sampleOf items)) (String.ofList (front ++ ' ' :: rest))
      (by simpa using hreflowed)
    rw [find_values h hitems, find_values h hitems, String.toList_ofList, String.toList_ofList,
      hlost] at hvalues
    exact hfound (Option.map_eq_none_iff.mp hvalues)
  · intro hspaced text text' hreflowed
    rw [find_values h hitems, find_values h hitems, firstAt_reflowed
      (fun _ _ h => matchValues_reflowed hsteady hproper hspaced h) hreflowed]

/-- The white space behind a label may be set in any way. -/
theorem find_reflowed_invoice :
    ∃ c, (Expression.simple "Invoice <n:int>").compile 100000 = .ok c ∧
      ∀ text text' : String, Reflowed text.toList text'.toList →
        (c.find text).map GroupMatch.values = (c.find text').map GroupMatch.values := by
  have hitems : readItems "Invoice <n:int>" = .ok
      [.char 'I', .char 'n', .char 'v', .char 'o', .char 'i', .char 'c', .char 'e', .blank,
        .placeholder "n" .int] := by rfl
  have hcompile := @compile_of_readItems _ 100000 _ hitems (by decide +kernel)
  exact ⟨_, hcompile, (find_reflowed hcompile hitems (by decide)).mpr (by decide)⟩

/-- White space on both sides of a wildcard is found in two spaces, and not in one. -/
theorem find_reflowed_lost :
    ∃ c items, (Expression.simple "a * b").compile 100000 = .ok c ∧
      readItems "a * b" = .ok items ∧ (∀ item ∈ items, item.isSteady = true) ∧
      Reflowed "a  b".toList "a b".toList ∧
      c.find "a  b" = some ⟨[], []⟩ ∧ c.find "a b" = none := by
  have hitems : readItems "a * b" = .ok [.char 'a', .blank, .anyText, .blank, .char 'b'] := by rfl
  have hcompile := @compile_of_readItems _ 100000 _ hitems (by decide +kernel)
  have hreflowed : Reflowed "a  b".toList "a b".toList :=
    .append_left ['a'] (.cons_left rfl rfl (.refl [' ', 'b']))
  refine ⟨_, _, hcompile, hitems, by decide, hreflowed, ?_, ?_⟩
  · rw [find_of_readItems hcompile hitems]
    rfl
  · rw [find_of_readItems hcompile hitems]
    rfl

end Dossier
