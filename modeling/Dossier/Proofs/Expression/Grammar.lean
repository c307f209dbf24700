import Dossier.Proofs.Expression.Blanks
import Dossier.Proofs.Expression.Placeholder

/-!
# The grammar of simple expressions

The text of a simple expression consists of literal texts, wildcards and placeholders. These parts
can be told apart before anything is translated, and each one is translated by itself. So the
regular expression of a text is made of the translations of its parts, and the error that is
reported is the fault of the first part that has one.

* `TextPart`, `partsIn` : the parts of a text;
* `TextPart.pattern`, `TextPart.fault?` : the translation of a part, and what can be wrong with it;
* `Accepted`, `FirstFault` : parts that can be used, and the first one that can not;
* `itemsOfSigns_translated` : reading items and writing them down is translating the parts;
* `simplePattern_grammar` : which texts have a regular expression, and which error the others have.
-/

namespace Dossier

/-! ## The parts of a text -/

/-- A part of the text of a simple expression. -/
inductive TextPart where
  /-- Characters that stand for themselves. -/
  | literal (text : List Char)
  | anyText
  | anyChar
  /-- The text between two brackets. -/
  | placeholder (body : List Char)
  /-- The text after a bracket that is not closed. -/
  | opened (body : List Char)
deriving DecidableEq, Repr

/-- Puts a character that stands for itself in front of other parts. -/
def addChar (c : Char) : List TextPart → List TextPart
  | .literal text :: parts => .literal (c :: text) :: parts
  | parts => .literal [c] :: parts

/-- The parts of signs, given, inside of brackets, the characters since the opening one in
reverse. -/
def partsOf : Option (List Char) → List Sign → List TextPart
  | none, [] => []
  | some body, [] => [.opened body.reverse]
  | none, s :: signs =>
    if s = ⟨'<', false⟩ then partsOf (some []) signs
    else if s = ⟨'>', false⟩ then partsOf none signs
    else if s = ⟨'*', false⟩ then .anyText :: partsOf none signs
    else if s = ⟨'?', false⟩ then .anyChar :: partsOf none signs
    else addChar s.char (partsOf none signs)
  | some body, s :: signs =>
    if s = ⟨'>', false⟩ then .placeholder body.reverse :: partsOf none signs
    else partsOf (some (s.char :: body)) signs

/-- The parts of the text of a simple expression. -/
def partsIn (text : String) : List TextPart := partsOf none (readSigns text.toList)

example : partsIn "a \\<>*<n:int" = [.literal "a <".toList, .anyText, .opened "n:int".toList] := by
  decide

/-! ## Translation -/

/-- A literal text as a regular expression. -/
def literalPattern (text : List Char) : List Char :=
  (collapsed text).flatMap fun c => if c = ' ' then "\\s+".toList else quoteSign c

namespace TextPart

/-- A part as a regular expression. -/
def pattern : TextPart → List Char
  | literal text => literalPattern text
  | anyText => ".*?".toList
  | anyChar => ".".toList
  | placeholder body => ((captureIn? body).getD .word).group (nameIn body)
  | opened _ => []

/-- The name that a part uses. -/
def names : TextPart → List String
  | placeholder body => [nameIn body]
  | _ => []

/-- The first fault of a part, given the names used before. -/
def fault? (used : List String) : TextPart → Option ExpressionError
  | placeholder body => placeholderFault? used body
  | opened _ => some .unterminated
  | _ => none

end TextPart

/-- Parts in which every placeholder is closed and can be used. -/
structure Accepted (parts : List TextPart) : Prop where
  closed : ∀ body, .opened body ∉ parts
  acceptable : ∀ before body after, parts = before ++ .placeholder body :: after →
    Acceptable (before.flatMap TextPart.names) body

/-- The first part that has a fault, after parts that can be used, has the given one. -/
def FirstFault (parts : List TextPart) (e : ExpressionError) : Prop :=
  ∃ before part after, parts = before ++ part :: after ∧ Accepted before ∧
    part.fault? (before.flatMap TextPart.names) = some e

/-- The translation of parts, or the fault of the first one that has a fault. -/
def translated (used : List String) : List TextPart → Except ExpressionError (List Char)
  | [] => .ok []
  | part :: parts =>
    match part.fault? used with
    | some e => .error e
    | none => (translated (used ++ part.names) parts).map (part.pattern ++ ·)

/-- What is left to be translated of parts, given whether white space stands in front. White space
after white space adds nothing. -/
def continuing (afterBlank : Bool) : List TextPart → List TextPart
  | .literal text :: parts =>
    .literal (if afterBlank then text.dropWhile Text.isBlank else text) :: parts
  | parts => parts

@[simp] theorem continuing_false (parts : List TextPart) : continuing false parts = parts := by
  unfold continuing
  split <;> rfl

/-- Whether items in reverse end with white space. -/
def endsBlank (items : List Item) : Bool := items.head? == some .blank

@[simp] theorem endsBlank_cons (item : Item) (items : List Item) :
    endsBlank (item :: items) = (item == .blank) := rfl

/-- All that a character that stands for itself can do. -/
theorem pushChar_cases (items : List Item) (c : Char) :
    (Text.isBlank c = true ∧ endsBlank items = true ∧ pushChar items c = items) ∨
      (Text.isBlank c = true ∧ endsBlank items = false ∧ pushChar items c = .blank :: items) ∨
      (Text.isBlank c = false ∧ pushChar items c = .char c :: items) := by
  by_cases hc : Text.isBlank c = true
  · by_cases hitems : endsBlank items = true
    · obtain ⟨before, rfl⟩ : ∃ before, items = .blank :: before := by
        cases items <;> simp_all [endsBlank]
      simp [pushChar, hc]
    · have hpush : pushChar items c = .blank :: items := by
        unfold pushChar
        split
        · split <;> simp_all
        · contradiction
      simp [hpush, hc, hitems]
  · simp [pushChar, hc]

/-- White space is translated once, together with all white space that follows. -/
theorem literalPattern_blank {c : Char} (hc : Text.isBlank c = true) (text : List Char) :
    literalPattern (c :: text) =
      "\\s+".toList ++ literalPattern (text.dropWhile Text.isBlank) := by
  simp [literalPattern, collapsed_blank hc]

theorem literalPattern_char {c : Char} (hc : Text.isBlank c = false) (text : List Char) :
    literalPattern (c :: text) = quoteSign c ++ literalPattern text := by
  have hne : c ≠ ' ' := by
    rintro rfl
    cases hc
  simp [literalPattern, collapsed_char hc, hne]

theorem translated_literal (used : List String) (text : List Char) (parts : List TextPart) :
    translated used (.literal text :: parts) =
      (translated used parts).map (literalPattern text ++ ·) := by
  simp [translated, TextPart.fault?, TextPart.names, TextPart.pattern]

/-- Parts are translated as if they started with a literal text, which may be empty. -/
theorem exists_literal (parts : List TextPart) :
    ∃ text rest, (∀ c, addChar c parts = .literal (c :: text) :: rest) ∧
      ∀ used afterBlank, translated used (continuing afterBlank parts) =
        translated used (continuing afterBlank (.literal text :: rest)) := by
  have hother : ∀ parts used, translated used parts = translated used (.literal [] :: parts) := by
    intro parts used
    rw [translated_literal]
    cases translated used parts <;> rfl
  rcases parts with _ | ⟨part, parts⟩
  · exact ⟨[], [], fun _ => rfl, fun used afterBlank => by simp [continuing, ← hother]⟩
  · cases part with
    | literal text => exact ⟨text, parts, fun _ => rfl, fun _ _ => rfl⟩
    | anyText | anyChar | placeholder | opened =>
      exact ⟨[], _, fun _ => rfl, fun used afterBlank => by simp [continuing, ← hother]⟩

/-- A character that stands for itself is translated in front of the literal text that follows. -/
theorem translated_addChar (used : List String) (items : List Item) (c : Char)
    (parts : List TextPart) :
    (translated used (continuing (endsBlank (pushChar items c)) parts)).map
        (patternOf (pushChar items c).reverse ++ ·) =
      (translated used (continuing (endsBlank items) (addChar c parts))).map
        (patternOf items.reverse ++ ·) := by
  obtain ⟨text, rest, hadd, hparts⟩ := exists_literal parts
  rw [hadd, hparts]
  simp only [continuing, translated_literal]
  have hmap : ∀ (s t u v : List Char), s ++ t = u ++ v → ∀ r : Except ExpressionError (List Char),
      (r.map (t ++ ·)).map (s ++ ·) = (r.map (v ++ ·)).map (u ++ ·) := by
    rintro s t u v h (e | r)
    · rfl
    · simp [Except.map, ← List.append_assoc, h]
  apply hmap
  rcases pushChar_cases items c with ⟨hc, hitems, hpush⟩ | ⟨hc, hitems, hpush⟩ | ⟨hc, hpush⟩ <;>
    rw [hpush]
  · simp [hitems, hc]
  · simp [hitems, literalPattern_blank hc, patternOf, Item.pattern]
  · simp [hc, literalPattern_char hc, patternOf, Item.pattern]

/-- What an item is translated to stands in front of what the parts after it are translated to. -/
theorem map_cons_item (item : Item) (items : List Item) (r : Except ExpressionError (List Char)) :
    r.map (patternOf (item :: items).reverse ++ ·) =
      (r.map (item.pattern ++ ·)).map (patternOf items.reverse ++ ·) := by
  cases r <;> simp [Except.map, patternOf]

/-- The items of signs are translated to what their parts are translated to. -/
theorem itemsOfSigns_translated (items : List Item) (body : Option (List Char))
    (signs : List Sign) :
    (itemsOfSigns items body signs).map patternOf =
      (translated (placeholderNames items).reverse
        (continuing (endsBlank items) (partsOf body signs))).map
          (patternOf items.reverse ++ ·) := by
  induction signs generalizing items body with
  | nil =>
    cases body with
    | none => simp [itemsOfSigns, partsOf, continuing, translated, Except.map]
    | some body => simp [itemsOfSigns, partsOf, continuing, translated, TextPart.fault?, Except.map]
  | cons s signs ih =>
    have hitem : ∀ item, (item == .blank) = false →
        (itemsOfSigns (item :: items) none signs).map patternOf =
          ((translated (placeholderNames (item :: items)).reverse (partsOf none signs)).map
            (item.pattern ++ ·)).map (patternOf items.reverse ++ ·) := by
      intro item h
      rw [ih, endsBlank_cons, h, continuing_false, map_cons_item]
    cases body with
    -- Inside a placeholder everything is collected up to the bracket that closes it.
    | some body =>
      rw [itemsOfSigns, partsOf]
      by_cases hs : s = ⟨'>', false⟩
      · rw [if_pos hs, if_pos hs, readPlaceholder_eq, ← placeholderFault?_reverse]
        simp only [continuing, translated, TextPart.fault?]
        cases hf : placeholderFault? (placeholderNames items).reverse body.reverse with
        | some e => rfl
        | none =>
          have h := hitem (.placeholder (nameIn body.reverse)
            ((captureIn? body.reverse).getD .word)) rfl
          simpa [placeholderNames, TextPart.names, TextPart.pattern, Item.pattern] using h
      · rw [if_neg hs, if_neg hs]
        exact ih _ _
    -- Outside, signs that are no delimiters on their own go to the literal text.
    | none =>
      have hchar : (itemsOfSigns (pushChar items s.char) none signs).map patternOf =
          (translated (placeholderNames items).reverse
            (continuing (endsBlank items) (addChar s.char (partsOf none signs)))).map
              (patternOf items.reverse ++ ·) := by
        rw [ih, placeholderNames_pushChar, translated_addChar]
      obtain ⟨c, escaped⟩ := s
      cases escaped with
      | true => simpa [itemsOfSigns, partsOf] using hchar
      | false =>
        simp only [itemsOfSigns, partsOf, Sign.mk.injEq, and_true, Bool.false_eq_true, if_false]
        by_cases hopen : c = '<'
        · simp only [hopen, if_true]
          exact ih items (some [])
        by_cases hstar : c = '*'
        · have h := hitem .anyText rfl
          simpa [hstar, continuing, translated, TextPart.fault?, TextPart.names, TextPart.pattern,
            placeholderNames, Item.pattern] using h
        by_cases hany : c = '?'
        · have h := hitem .anyChar rfl
          simpa [hany, continuing, translated, TextPart.fault?, TextPart.names, TextPart.pattern,
            placeholderNames, Item.pattern] using h
        by_cases hclose : c = '>'
        · simp only [hclose]
          exact ih items none
        · simp only [hopen, hstar, hany, hclose, if_false]
          exact hchar

/-! ## Accepted texts -/

theorem accepted_iff (parts : List TextPart) :
    Accepted parts ↔ ∀ before part after, parts = before ++ part :: after →
      part.fault? (before.flatMap TextPart.names) = none := by
  constructor
  · rintro ⟨hclosed, hacceptable⟩ before part after rfl
    cases part with
    | literal | anyText | anyChar => rfl
    | placeholder body =>
      exact (placeholderFault?_eq_none _ _).mpr (hacceptable before body after rfl)
    | opened body => exact absurd (by simp) (hclosed body)
  · intro h
    refine ⟨fun body hbody => ?_, fun before body after hparts => ?_⟩
    · obtain ⟨before, after, rfl⟩ := List.append_of_mem hbody
      cases h before _ after rfl
    · exact (placeholderFault?_eq_none _ _).mp (h before _ after hparts)

theorem accepted_nil : Accepted [] := ⟨by simp, by simp⟩

theorem Accepted.of_append {before after : List TextPart} (h : Accepted (before ++ after)) :
    Accepted before := by
  rw [accepted_iff] at h ⊢
  rintro front part rest rfl
  exact h front part (rest ++ after) (by simp)

/-- A part without a fault after such parts. -/
theorem Accepted.snoc {before : List TextPart} {part : TextPart} (h : Accepted before)
    (hpart : part.fault? (before.flatMap TextPart.names) = none) : Accepted (before ++ [part]) := by
  rw [accepted_iff] at h ⊢
  intro front p rest hparts
  rcases List.eq_nil_or_concat rest with rfl | ⟨rest, last, rfl⟩
  · obtain ⟨rfl, hlast⟩ := List.append_inj' hparts rfl
    obtain rfl := List.singleton_inj.mp hlast
    exact hpart
  · rw [List.concat_eq_append, ← List.cons_append, ← List.append_assoc] at hparts
    exact h front p rest (List.append_inj' hparts rfl).1

theorem Accepted.not_firstFault {parts : List TextPart} (h : Accepted parts) (e : ExpressionError) :
    ¬FirstFault parts e := by
  rintro ⟨before, part, after, hparts, -, hfault⟩
  rw [(accepted_iff parts).mp h before part after hparts] at hfault
  cases hfault

/-- Parts without a fault end before any part that has one. -/
theorem Accepted.length_le {before front : List TextPart} (h : Accepted front) {part : TextPart}
    {rest after : List TextPart} (hparts : front ++ rest = before ++ part :: after)
    {e : ExpressionError} (hfault : part.fault? (before.flatMap TextPart.names) = some e) :
    front.length ≤ before.length := by
  rcases List.append_eq_append_iff.mp hparts with ⟨between, rfl, -⟩ | ⟨between, rfl, hafter⟩
  · simp
  · cases between with
    | nil => simp
    | cons p between =>
      obtain ⟨rfl, -⟩ := List.cons.inj hafter
      exact absurd ⟨before, part, between, rfl, h.of_append, hfault⟩ (h.not_firstFault e)

/-- There is one first fault at most. -/
theorem FirstFault.unique {parts : List TextPart} {e e' : ExpressionError}
    (h : FirstFault parts e) (h' : FirstFault parts e') : e = e' := by
  obtain ⟨before, part, after, rfl, hbefore, hfault⟩ := h
  obtain ⟨before', part', after', hparts, hbefore', hfault'⟩ := h'
  have hlength : before.length = before'.length :=
    Nat.le_antisymm (hbefore.length_le hparts hfault') (hbefore'.length_le hparts.symm hfault)
  obtain ⟨rfl, hrest⟩ := List.append_inj hparts hlength
  obtain ⟨rfl, -⟩ := List.cons.inj hrest
  exact Option.some.inj (hfault.symm.trans hfault')

/-- Parts are translated one by one up to the first fault. -/
theorem translated_cases {before : List TextPart} (hbefore : Accepted before)
    (parts : List TextPart) :
    (Accepted (before ++ parts) ∧ translated (before.flatMap TextPart.names) parts =
        .ok (parts.flatMap TextPart.pattern)) ∨
      ∃ e, FirstFault (before ++ parts) e ∧
        translated (before.flatMap TextPart.names) parts = .error e := by
  induction parts generalizing before with
  | nil => exact .inl ⟨by simpa using hbefore, rfl⟩
  | cons part parts ih =>
    rw [translated]
    cases hfault : part.fault? (before.flatMap TextPart.names) with
    | some e => exact .inr ⟨e, ⟨before, part, parts, rfl, hbefore, hfault⟩, rfl⟩
    | none =>
      have h := ih (hbefore.snoc hfault)
      simp only [List.flatMap_append, List.flatMap_singleton, List.append_assoc,
        List.singleton_append] at h
      rcases h with ⟨h1, h2⟩ | ⟨e, h1, h2⟩
      · exact .inl ⟨h1, by simp [h2, Except.map]⟩
      · exact .inr ⟨e, h1, by simp [h2, Except.map]⟩

/-- The regular expression of a text is the translation of its parts. -/
theorem simplePattern_eq (text : String) :
    simplePattern text = (translated [] (partsIn text)).map String.ofList := by
  have h := itemsOfSigns_translated [] none (readSigns text.toList)
  have hpatterns : (readItems text).map patternOf = translated [] (partsIn text) := by
    rw [readItems, readItemsFrom_eq, h]
    show (translated [] (continuing false (partsIn text))).map _ = _
    rw [continuing_false]
    cases translated [] (partsIn text) <;> rfl
  rw [← hpatterns, simplePattern]
  cases readItems text <;> rfl

/-- The text of a simple expression has a regular expression if and only if its placeholders are all
closed and can be used. It is then made of the translations of the parts, and otherwise the error is
the fault of the first part that has one. -/
theorem simplePattern_grammar (text : String) :
    (∀ pattern, simplePattern text = .ok pattern ↔
      Accepted (partsIn text) ∧
        pattern = String.ofList ((partsIn text).flatMap TextPart.pattern)) ∧
    ∀ e, simplePattern text = .error e ↔ FirstFault (partsIn text) e := by
  rw [simplePattern_eq]
  rcases translated_cases accepted_nil (partsIn text) with ⟨haccepted, h⟩ | ⟨fault, hfault, h⟩ <;>
    rw [List.flatMap_nil] at h <;> rw [h]
  · refine ⟨fun pattern => ?_, fun e => ?_⟩
    · simpa [Except.map, eq_comm] using fun _ => haccepted
    · simpa [Except.map] using haccepted.not_firstFault e
  · refine ⟨fun pattern => ?_, fun e => ?_⟩
    · have : ¬Accepted (partsIn text) := fun h => h.not_firstFault fault hfault
      simp [Except.map, this]
    · constructor
      · rintro ⟨⟩
        exact hfault
      · intro he
        rw [hfault.unique he]
        rfl

-- The name that is used again comes before the kind that does not exist, and both before the end of
-- the text.
example : simplePattern "<a:int> <a:word> <b:date> <" = .error (.invalidName "a" .repeated) := by
  rfl

end Dossier
