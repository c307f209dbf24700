import Dossier.Proofs.Expression.Mirror
import Dossier.Proofs.Expression.Signs

/-!
# Mirrored expressions

The text of a simple expression is mirrored by writing a point for each comma outside its
placeholders and a comma for each point, and by giving the placeholders of numbers the other decimal
symbol. The items of the mirrored text are the mirrored items.

* `mirrorBody` : what stands between two angle brackets, with the other decimal symbol;
* `mirroredExpression` : the mirrored text;
* `readable_mirrorSigns` : the signs of the mirrored text can be written in a row;
* `readPlaceholder_mirrorBody`, `itemsOfSigns_mirrorSigns` : their items;
* `find_mirroredExpression` : the mirrored expression finds the mirrored values.
-/

namespace Dossier

/-! ## The mirrored text -/

/-- The name of a decimal sign. -/
def DecimalSign.symbol : DecimalSign → String
  | dot => "dot"
  | comma => "comma"

/-- The signs between two angle brackets. In the placeholder of a number the other decimal symbol is
written behind the name and the kind. -/
def mirrorBody (body : List Sign) : List Sign :=
  let text := body.map Sign.char
  let start := (text.takeWhile Text.isBlank).length
  match readPlaceholder [] text, splitColons (Text.trim text) with
  | .ok (.placeholder _ (.number sign)), name :: kind :: _ =>
    body.take (start + (name ++ ':' :: kind).length)
      ++ (':' :: sign.other.symbol.toList).map Sign.plain
      ++ body.drop (start + (Text.trim text).length)
  | _, _ => body

/-- The other one of a point and a comma, escaped or not. -/
def Sign.mirrored (s : Sign) : Sign := ⟨mirrorChar s.char, s.escaped⟩

/-- The signs of an expression, given, inside of angle brackets, the signs since the opening one in
reverse. -/
def mirrorSigns : Option (List Sign) → List Sign → List Sign
  | none, [] => []
  | some body, [] => body.reverse
  | none, s :: signs =>
    s.mirrored :: mirrorSigns (if s = ⟨'<', false⟩ then some [] else none) signs
  | some body, s :: signs =>
    if s = ⟨'>', false⟩ then mirrorBody body.reverse ++ s :: mirrorSigns none signs
    else mirrorSigns (some (s :: body)) signs

/-- The text of a simple expression with points and commas in each other's place, and with the
other decimal symbol for each of its numbers. -/
def mirroredExpression (text : String) : String :=
  String.ofList ((mirrorSigns none (readSigns text.toList)).flatMap Sign.written)

example : mirroredExpression "a\\*, < x:number >.<y:int> <z:Decimal:COMMA>" =
    "a\\*. < x:number:comma >,<y:int> <z:Decimal:dot>" := by decide +kernel

/-! ## Signs in a row -/

theorem Readable.append {signs signs' : List Sign} (h : Readable signs) (h' : Readable signs')
    (hnext : ∀ s ∈ signs.getLast?, ∀ t ∈ signs'.head?, s.MayPrecede t) :
    Readable (signs ++ signs') where
  escaped s hs := (List.mem_append.mp hs).elim (h.escaped s) (h'.escaped s)
  chain := List.isChain_append.mpr ⟨h.chain, h'.chain, hnext⟩

theorem Readable.of_infix {signs signs' : List Sign} (h : Readable signs)
    (hsub : signs' <:+: signs) : Readable signs' :=
  ⟨fun s hs => h.escaped s (hsub.subset hs), h.chain.infix hsub⟩

theorem readable_split {start rest : List Sign} {s : Sign} :
    Readable (start ++ s :: rest) ↔ Readable (start ++ [s]) ∧ Readable (s :: rest) := by
  constructor
  · intro h
    refine ⟨h.of_infix ?_, h.of_infix (List.suffix_append start _).isInfix⟩
    exact ((List.prefix_append_right_inj start).mpr (List.prefix_append [s] rest)).isInfix
  · rintro ⟨hstart, hrest⟩
    refine ⟨fun t ht => ?_, List.isChain_split.mpr ⟨hstart.chain, hrest.chain⟩⟩
    rcases List.mem_append.mp ht with ht | ht
    · exact hstart.escaped t (List.mem_append_left _ ht)
    · exact hrest.escaped t ht

/-- Letters and colons can be written between any signs. -/
theorem Readable.insert {start rest : List Sign} {text : List Char} (hstart : Readable start)
    (hrest : Readable rest) (hne : text ≠ [])
    (htext : ∀ c ∈ text, c ≠ '\\' ∧ isDelimiter c = false) :
    Readable (start ++ text.map Sign.plain ++ rest) := by
  have hfree : ∀ s ∈ text.map Sign.plain, ∀ t, s.MayPrecede t := by
    intro s hs t
    obtain ⟨c, hc, rfl⟩ := List.mem_map.mp hs
    exact Sign.mayPrecede_of_ne (fun h => (htext c hc).1 (congrArg Sign.char h)) t
  have hword : Readable (text.map Sign.plain) := by
    refine ⟨fun s hs h => ?_, List.Pairwise.isChain ?_⟩
    · obtain ⟨c, -, rfl⟩ := List.mem_map.mp hs
      cases h
    · exact List.pairwise_of_forall_mem_list fun s hs t _ => hfree s hs t
  refine (hstart.append hword fun s _ t ht _ _ => ?_).append hrest fun s hs t _ => hfree s ?_ t
  · obtain ⟨c, hc, rfl⟩ := List.mem_map.mp (List.mem_of_mem_head? ht)
    exact (htext c hc).2
  · rw [List.getLast?_append_of_ne_nil _ (by simpa using hne)] at hs
    exact List.mem_of_mem_getLast? hs

/-- Signs between two others can be written in a row if some of them are replaced by letters and
colons. -/
theorem Readable.replace {s t : Sign} {body : List Sign} (h : Readable (s :: body ++ [t]))
    (m n : Nat) {text : List Char} (hne : text ≠ [])
    (htext : ∀ c ∈ text, c ≠ '\\' ∧ isDelimiter c = false) :
    Readable (s :: (body.take m ++ text.map Sign.plain ++ body.drop n) ++ [t]) := by
  have hstart : s :: body.take m <:+: s :: body ++ [t] :=
    ((List.prefix_cons_inj s).mpr (List.take_prefix m body)).isInfix.trans
      (List.prefix_append _ _).isInfix
  have hrest : body.drop n ++ [t] <:+: s :: body ++ [t] :=
    List.IsSuffix.isInfix
      (List.suffix_append_self_iff.mpr ((List.drop_suffix n body).trans (List.suffix_cons s body)))
  have hinsert := (h.of_infix hstart).insert (h.of_infix hrest) hne htext
  simpa only [List.append_assoc, List.cons_append] using hinsert

theorem readable_mirrorBody {s t : Sign} {body : List Sign} (h : Readable (s :: body ++ [t])) :
    Readable (s :: mirrorBody body ++ [t]) := by
  unfold mirrorBody
  simp only
  split
  · rename_i sign _ _ _ _ _
    have htext : (':' :: sign.other.symbol.toList).all
        (fun c => decide (c ≠ '\\' ∧ isDelimiter c = false)) = true := by
      cases sign <;> decide +kernel
    exact h.replace _ _ (List.cons_ne_nil _ _) fun c hc =>
      of_decide_eq_true (List.all_eq_true.mp htext c hc)
  · exact h

/-- The mirror changes neither backslashes nor wildcards and brackets. -/
theorem Sign.MayPrecede.mirrored {s t : Sign} (h : s.MayPrecede t) :
    s.mirrored.MayPrecede t.mirrored := by
  intro hs ht
  obtain ⟨c, escaped⟩ := s
  rw [Sign.mirrored, Sign.mk.injEq, mirrorChar_eq_iff] at hs
  obtain ⟨rfl, rfl⟩ : c = '\\' ∧ escaped = false := hs
  rw [Sign.mirrored, apply_mirrorChar (f := isDelimiter) rfl]
  exact h rfl ht

/-- The mirrored signs can be written behind the mirrored sign before them. -/
theorem readable_mirrorSigns {s : Sign} {body : Option (List Sign)} {signs : List Sign}
    (hopen : body.isSome → s = ⟨'<', false⟩)
    (h : Readable (s :: (body.getD []).reverse ++ signs)) :
    Readable (s.mirrored :: mirrorSigns body signs) := by
  have hmirrored : ∀ {s : Sign} {signs}, Readable (s :: signs) → s.mirrored.escaped = true →
      isDelimiter s.mirrored.char = true := by
    intro s signs h hescaped
    rw [Sign.mirrored, apply_mirrorChar (f := isDelimiter) rfl]
    exact h.escaped s List.mem_cons_self hescaped
  have hbracket : Sign.mirrored ⟨'<', false⟩ = ⟨'<', false⟩ := rfl
  fun_induction mirrorSigns body signs generalizing s with
  | case1 => exact ⟨by simpa using hmirrored h, .singleton _⟩
  | case2 body =>
    obtain rfl := hopen rfl
    simpa [hbracket] using h
  | case3 t signs ih =>
    have h : Readable (s :: t :: signs) := h
    refine Readable.cons (ih ?_ ?_) (hmirrored h) ?_
    · split
      · exact fun _ => ‹_›
      · simp
    · split <;> exact h.tail
    · rintro u hu
      obtain rfl := Option.some.inj hu
      exact (List.isChain_cons_cons.mp h.chain).1.mirrored
  -- The end of a placeholder.
  | case4 body signs ih =>
    obtain rfl := hopen rfl
    obtain ⟨hbody, hrest⟩ := readable_split.mp h
    exact readable_split.mpr ⟨readable_mirrorBody hbody, ih (by simp) hrest⟩
  | case5 body t signs hne ih => exact ih (fun _ => hopen rfl) (by simpa using h)

/-- The signs of the mirrored text are those that it was written from. -/
theorem readSigns_mirroredExpression (text : String) :
    readSigns (mirroredExpression text).toList = mirrorSigns none (readSigns text.toList) := by
  -- A bracket that closes nothing may stand in front of any text.
  have hfirst : Readable (⟨'>', false⟩ :: readSigns text.toList) :=
    (readable_readSigns _).cons (by simp) fun t _ => Sign.mayPrecede_of_ne (by decide) t
  have hmirror := (@readable_mirrorSigns _ none _ (by simp) hfirst).tail
  rw [mirroredExpression, String.toList_ofList, readSigns_written hmirror]

/-! ## Placeholders -/

theorem isBlank_of_isAlpha {c : Char} (h : c.isAlpha = true) : Text.isBlank c = false := by
  have hcode : (65 ≤ c.toNat ∧ c.toNat ≤ 90) ∨ (97 ≤ c.toNat ∧ c.toNat ≤ 122) := by
    have hletter : (decide (c.val ≥ 'A'.val ∧ c.val ≤ 'Z'.val) ||
        decide (c.val ≥ 'a'.val) && decide (c.val ≤ 'z'.val)) = true := h
    simpa [UInt32.le_iff_toNat_le] using hletter
  rw [Bool.eq_false_iff]
  intro hblank
  simp only [Text.isBlank, CharSet.contains, CharSet.containsCode, CharSet.blank, List.any_eq_true,
    Bool.and_eq_true, decide_eq_true_eq] at hblank
  obtain ⟨r, hr, hle⟩ := hblank
  simp only [List.mem_cons, List.not_mem_nil, or_false] at hr
  rcases hr with rfl | rfl | rfl | rfl | rfl | rfl | rfl | rfl | rfl | rfl <;> omega

theorem CaptureKind.eq_number {kind : CaptureKind} {name : String} {arguments : List String}
    {sign : DecimalSign} (h : kind.capture name arguments = .ok (.number sign)) :
    kind = .number := by
  cases kind with
  | number => rfl
  | word | int => cases arguments <;> cases h

theorem CaptureKind.capture_symbol (name : String) (sign : DecimalSign) :
    number.capture name [sign.symbol] = .ok (.number sign) := by
  have hname : DecimalSign.ofName? sign.symbol = some sign := by cases sign <;> decide +kernel
  rw [capture, hname]

/-- The other decimal symbol of the placeholder of a number is written behind its kind, between the
blanks around it. -/
theorem map_char_mirrorBody {body : List Sign} {name kind : List Char}
    {arguments : List (List Char)} {placeholder : String} {sign : DecimalSign}
    (hparts : splitColons (Text.trim (body.map Sign.char)) = name :: kind :: arguments)
    (hnumber : readPlaceholder [] (body.map Sign.char) =
      .ok (.placeholder placeholder (.number sign))) :
    ∃ lead trail, (∀ c ∈ lead, Text.isBlank c = true) ∧ (∀ c ∈ trail, Text.isBlank c = true) ∧
      (mirrorBody body).map Sign.char =
        lead ++ (name ++ ':' :: (kind ++ ':' :: sign.other.symbol.toList)) ++ trail := by
  obtain ⟨trail, htrail, htext⟩ := exists_append_trim (body.map Sign.char)
  have hjoin : [':'].intercalate (name :: kind :: arguments) = Text.trim (body.map Sign.char) := by
    rw [← hparts, splitColons_eq, List.intercalate_splitOn]
  obtain ⟨rest, htrim⟩ : ∃ rest, Text.trim (body.map Sign.char) = name ++ ':' :: kind ++ rest := by
    rw [← hjoin]
    cases arguments with
    | nil => exact ⟨[], by simp [List.intercalate_cons_cons]⟩
    | cons argument arguments => exact ⟨':' :: [':'].intercalate (argument :: arguments), by simp⟩
  simp only [mirrorBody, hnumber, hparts, List.map_append, List.map_take, List.map_drop]
  generalize hlead : (body.map Sign.char).takeWhile Text.isBlank = lead at htext ⊢
  refine ⟨lead, trail, fun c hc => List.mem_takeWhile_imp (hlead ▸ hc), htrail, ?_⟩
  generalize body.map Sign.char = text at htext htrim ⊢
  have hstart : text.take (lead.length + (name ++ ':' :: kind).length) =
      lead ++ (name ++ ':' :: kind) := by
    rw [htext, htrim, List.append_assoc, List.append_assoc, ← List.append_assoc lead]
    exact List.take_left' (List.length_append ..)
  have hend : ∀ core, text = lead ++ core ++ trail →
      text.drop (lead.length + core.length) = trail := by
    rintro core rfl
    exact List.drop_left' (List.length_append ..)
  have hsymbol : ((':' :: sign.other.symbol.toList).map Sign.plain).map Sign.char =
      ':' :: sign.other.symbol.toList := by
    rw [List.map_map]
    exact List.map_id _
  rw [hstart, hend _ htext, hsymbol]
  simp

/-- The mirrored text between two angle brackets is read as the mirrored placeholder. -/
theorem readPlaceholder_mirrorBody {used : List String} {body : List Sign} {item : Item}
    (h : readPlaceholder used (body.map Sign.char) = .ok item) :
    readPlaceholder used ((mirrorBody body).map Sign.char) = .ok item.mirrored := by
  obtain ⟨name, kind, arguments, k, capture, hparts, hk, hcapture, rfl, hname, hused⟩ :=
    readPlaceholder_eq_ok.mp h
  have hself : readPlaceholder [] (body.map Sign.char) =
      .ok (.placeholder (String.ofList name) capture) :=
    readPlaceholder_eq_ok.mpr
      ⟨name, kind, arguments, k, capture, hparts, hk, hcapture, rfl, hname, List.not_mem_nil⟩
  cases capture with
  | word | int =>
    have hbody : mirrorBody body = body := by simp only [mirrorBody, hself]
    rw [hbody, h]
    rfl
  | number sign =>
    obtain rfl := CaptureKind.eq_number hcapture
    obtain ⟨lead, trail, hlead, htrail, hbody⟩ := map_char_mirrorBody hparts hself
    have hkind : ':' ∉ kind := not_mem_of_mem_splitColons (by rw [hparts]; simp)
    have hsymbol : ':' ∉ sign.other.symbol.toList := by cases sign <;> decide +kernel
    have hends : Text.trim ((mirrorBody body).map Sign.char) =
        name ++ ':' :: (kind ++ ':' :: sign.other.symbol.toList) := by
      rw [hbody]
      obtain ⟨c, rest, rfl⟩ : ∃ c rest, name = c :: rest := List.exists_cons_of_ne_nil (by
        rintro rfl
        cases hname)
      refine trim_append hlead htrail (by simp) ?_ ?_
      · exact isBlank_of_isAlpha (isPlaceholderName_cons.mp hname).1
      · cases sign <;> simp <;> decide +kernel
    refine readPlaceholder_eq_ok.mpr ⟨name, kind, [sign.other.symbol.toList], .number,
      .number sign.other, ?_, hk, ?_, rfl, hname, hused⟩
    · rw [hends, splitColons_eq,
        List.splitOn_append_cons_self_of_not_mem (not_mem_of_isPlaceholderName hname rfl),
        List.splitOn_append_cons_self_of_not_mem hkind, List.splitOn_eq_singleton hsymbol]
    · rw [List.map_singleton, String.ofList_toList]
      exact CaptureKind.capture_symbol _ _

/-! ## Items -/

theorem pushChar_mirrored (items : List Item) (c : Char) :
    pushChar (items.map Item.mirrored) (mirrorChar c) = (pushChar items c).map Item.mirrored := by
  unfold pushChar
  rw [isBlank_mirrorChar]
  split
  · cases items with
    | nil => rfl
    | cons item items => cases item <;> rfl
  · rfl

/-- Signs that close no placeholder are its characters. -/
theorem itemsOfSigns_append {body : List Sign} (hbody : ⟨'>', false⟩ ∉ body) (items : List Item)
    (b : List Char) (rest : List Sign) :
    itemsOfSigns items (some b) (body ++ rest) =
      itemsOfSigns items (some ((body.map Sign.char).reverse ++ b)) rest := by
  induction body generalizing b with
  | nil => rfl
  | cons s body ih =>
    rw [List.mem_cons, not_or] at hbody
    rw [List.cons_append, itemsOfSigns, if_neg (Ne.symm hbody.1), ih hbody.2]
    simp

theorem not_mem_mirrorBody {body : List Sign} (h : ⟨'>', false⟩ ∉ body) :
    ⟨'>', false⟩ ∉ mirrorBody body := by
  unfold mirrorBody
  simp only
  split
  · rename_i sign _ _ _ _ _
    have hsymbol : ⟨'>', false⟩ ∉ (':' :: sign.other.symbol.toList).map Sign.plain := by
      cases sign <;> decide +kernel
    simp only [List.mem_append, not_or]
    exact ⟨⟨fun hs => h (List.mem_of_mem_take hs), hsymbol⟩, fun hs => h (List.mem_of_mem_drop hs)⟩
  · exact h

/-- The mirrored signs are the mirrored items. -/
theorem itemsOfSigns_mirrorSigns {items result : List Item} {body : Option (List Sign)}
    {signs : List Sign} (hbody : ∀ b ∈ body, ⟨'>', false⟩ ∉ b)
    (h : itemsOfSigns items (body.map (List.map Sign.char)) signs = .ok result) :
    itemsOfSigns (items.map Item.mirrored) (body.map fun _ => []) (mirrorSigns body signs) =
      .ok (result.map Item.mirrored) := by
  fun_induction mirrorSigns body signs generalizing items with
  | case1 =>
    cases h
    simp [itemsOfSigns]
  | case2 body => cases h
  | case3 s signs ih =>
    obtain ⟨c, escaped⟩ := s
    have hsame {d : Char} (hd : mirrorChar d = d) : mirrorChar c = d ↔ c = d := by
      rw [mirrorChar_eq_iff, hd]
    simp only [Option.map_none, itemsOfSigns] at h ⊢
    simp only [Sign.mirrored, hsame (d := '<') rfl, hsame (d := '*') rfl, hsame (d := '?') rfl,
      hsame (d := '>') rfl, pushChar_mirrored, Sign.mk.injEq] at ih ⊢
    cases escaped with
    | true =>
      simp only [if_true, Bool.true_eq_false, and_false, if_false] at h ih ⊢
      exact ih (by simp) h
    | false =>
      simp only [Bool.false_eq_true, if_false, and_true] at h ih ⊢
      split_ifs at h ih ⊢ <;> exact ih (by simp) h
  -- The end of a placeholder.
  | case4 body signs ih =>
    have hnot : ⟨'>', false⟩ ∉ body.reverse := by simpa using hbody body rfl
    simp only [Option.map_some, itemsOfSigns, if_true, ← List.map_reverse] at h
    cases hitem : readPlaceholder (placeholderNames items) (body.reverse.map Sign.char) with
    | error fault =>
      rw [hitem] at h
      cases h
    | ok item =>
      rw [hitem] at h
      have hmirror := readPlaceholder_mirrorBody hitem
      rw [← placeholderNames_mirrored] at hmirror
      have hrest := ih (by simp) h
      rw [Option.map_some, itemsOfSigns_append (not_mem_mirrorBody hnot), List.append_nil,
        itemsOfSigns, if_pos rfl, List.reverse_reverse, hmirror]
      exact hrest
  | case5 body s signs hne ih =>
    simp only [Option.map_some, itemsOfSigns, if_neg hne] at h
    refine ih (fun b hb => ?_) h
    obtain rfl := Option.some.inj hb
    simpa using ⟨Ne.symm hne, hbody body rfl⟩

theorem readItems_mirroredExpression {text : String} {items : List Item}
    (h : readItems text = .ok items) :
    readItems (mirroredExpression text) = .ok (items.map Item.mirrored) := by
  rw [readItems, readItemsFrom_eq] at h ⊢
  rw [readSigns_mirroredExpression]
  exact @itemsOfSigns_mirrorSigns [] items none _ (by simp) h

/-! ## What the mirrored expression finds -/

/-- The mirror of an expression can be used within the same size limit, and finds in a mirrored text
the mirrored values at the same places. -/
theorem find_mirroredExpression {e : String} {limit : Nat} {c : Compiled}
    (h : (Expression.simple e).compile limit = .ok c) :
    ∃ c', (Expression.simple (mirroredExpression e)).compile limit = .ok c' ∧
      ∀ text, c'.find (mirrored text) = (c.find text).map GroupMatch.mirrored := by
  obtain ⟨items, hitems, htree⟩ := compile_simple h
  have hmirror := readItems_mirroredExpression hitems
  have hfits : (treeOf items).fits limit = true := htree ▸ (compile_ok h).2.2.2
  have hcompile := compile_of_readItems hmirror ((fits_mirrored items limit).trans hfits)
  refine ⟨_, hcompile, fun text => ?_⟩
  have htext : (mirrored text).toList = text.toList.map mirrorChar := String.toList_ofList
  rw [find_of_readItems hcompile hmirror, find_of_readItems h hitems, htext, findItems_mirrored,
    Option.map_map]
  cases findItems items 0 text.toList with
  | none => rfl
  | some found => exact congrArg some (groupMatch_mirrored text.toList found)

end Dossier
