import Dossier.Expression.Simple
import Dossier.Proofs.Entries
import Dossier.Template.Render
import Mathlib.Data.List.TakeWhile

/-!
# Templates that are a variable

The template that only outputs a variable renders to the text of the variable. Its name may be that
of any placeholder, except for the few names that templates read in another way.

* `Token.scan_name`, `Token.scan_output` : the tokens of such a template, and of one that goes on
  after the variable;
* `readExpr_of_readSigned`, `read_of_readExpr` : how expressions without operators are read, and a
  template of one output tag;
* `read_output` : it is read as the output of a variable;
* `Context.lookup_bindings` : a name without members stands for its text;
* `renderText_eq_ok_iff`, `renderText_output` : what a template of one output tag renders to.
-/

namespace Dossier

/-- The name of a placeholder has no point. -/
theorem ne_member_of_isPlaceholderName {key : String} (h : isPlaceholderName key.toList = true)
    (outer inner : String) : key ≠ outer ++ "." ++ inner := by
  rintro rfl
  refine not_mem_of_isPlaceholderName h (c := '.') rfl ?_
  simp

namespace Template

/-- The text of the template that only outputs a variable. -/
def outputOf (name : String) : String := "\x7b\x7b " ++ name ++ " \x7d\x7d"

/-- Whether a text is a name in tags. -/
def isName (s : String) : Bool :=
  match s.toList with
  | [] => false
  | c :: rest => Token.startsName c && rest.all Token.inName

theorem isName_of_isPlaceholderName {name : String} (h : isPlaceholderName name.toList = true) :
    isName name = true := by
  unfold isName
  cases hlist : name.toList with
  | nil =>
    rw [hlist] at h
    cases h
  | cons c rest =>
    rw [hlist] at h
    obtain ⟨hc, hrest⟩ := isPlaceholderName_cons.mp h
    rw [Bool.and_eq_true, List.all_eq_true]
    exact ⟨by simp [Token.startsName, hc], hrest⟩

/-- The names that stand for no variable: the constants and the negation. -/
def keywords : List String := ["true", "True", "false", "False", "none", "None", "not"]

/-- The template is not blank, since its first brace is not. -/
theorem isEmpty_trim_outputOf (name : String) :
    (Text.trim (outputOf name).toList).isEmpty = false := by
  have hlist : (outputOf name).toList = '{' :: ("\x7b " ++ name ++ " \x7d\x7d").toList := by
    simp [outputOf]
  have hstart : Text.trimStart (outputOf name).toList = (outputOf name).toList := by
    rw [hlist]
    exact List.dropWhile_cons_of_neg (by decide)
  rw [Text.trim, hstart, List.isEmpty_eq_false_iff]
  intro hnil
  rw [Text.trimEnd, List.reverse_eq_nil_iff, List.dropWhile_eq_nil_iff, hlist] at hnil
  exact absurd (hnil '{' (by simp)) (by decide)

/-! ## Tokens -/

namespace Token

theorem closed?_of_startsName {c : Char} (h : startsName c = true) (tag : Tag) (rest : List Char) :
    closed? tag (c :: rest) = none := by
  have hc : c ≠ '-' ∧ c ≠ '+' ∧ c ≠ tag.closer := by
    refine ⟨?_, ?_, ?_⟩
    · rintro rfl
      exact absurd h (by decide)
    · rintro rfl
      exact absurd h (by decide)
    · rintro rfl
      cases tag <;> exact absurd h (by decide)
  unfold closed?
  split <;> simp_all

theorem dropWhile_isTagBlank_cons {c : Char} (h : startsName c = true) (rest : List Char) :
    (c :: rest).dropWhile isTagBlank = c :: rest := by
  refine List.dropWhile_cons_of_neg ?_
  intro hblank
  simp only [isTagBlank, Bool.or_eq_true, beq_iff_eq] at hblank
  rcases hblank with (((rfl | rfl) | rfl) | rfl) | rfl <;> exact absurd h (by decide)

/-- Blanks inside a tag do not matter. -/
theorem scanTag_blank {c : Char} (h : isTagBlank c = true) (fuel : Nat) (tag : Tag) (depth : Int)
    (rest : List Char) : scanTag fuel tag depth (c :: rest) = scanTag fuel tag depth rest := by
  cases fuel with
  | zero => rfl
  | succ fuel => rw [scanTag, scanTag, List.dropWhile_cons_of_pos h]

/-- The braces that open an output tag, with a blank after them. -/
theorem scanText_opening (fuel : Nat) (rest : List Char) :
    scanText (fuel + 1) false ('{' :: '{' :: ' ' :: rest) =
      outputStart :: scanTag fuel .output 0 rest := by
  rw [← scanTag_blank (c := ' ') rfl]
  rfl

/-- The braces that close an output tag, at the end of a text. -/
theorem scanTag_closing (fuel : Nat) : scanTag (fuel + 2) .output 0 ['}', '}'] = [outputEnd] := rfl

theorem inName_of_startsName {c : Char} (h : startsName c = true) : inName c = true := by
  unfold startsName at h
  unfold inName Char.isAlphanum
  grind

/-- A name inside a tag is a token, in front of a character that it cannot hold. -/
theorem scanTag_name {name : String} (h : isName name = true) {stop : Char}
    (hstop : inName stop = false) (fuel : Nat) (tag : Tag) (depth : Int) (rest : List Char) :
    scanTag (fuel + 1) tag depth (name.toList ++ stop :: rest) =
      .name name :: scanTag fuel tag depth (stop :: rest) := by
  obtain ⟨s, rfl⟩ : ∃ s, name = String.ofList s := ⟨name.toList, by simp⟩
  rw [isName, String.toList_ofList] at h
  rw [String.toList_ofList]
  cases s with
  | nil => cases h
  | cons c s =>
    obtain ⟨hc, hs⟩ := Bool.and_eq_true_iff.mp h
    have hname : ∀ d ∈ c :: s, inName d = true := by
      intro d hd
      rcases List.mem_cons.mp hd with rfl | hd
      · exact inName_of_startsName hc
      · exact List.all_eq_true.mp hs d hd
    have htake : (c :: s ++ stop :: rest).takeWhile inName = c :: s := by
      rw [List.takeWhile_append_of_pos hname, List.takeWhile_cons_of_neg (by simp [hstop]),
        List.append_nil]
    have hdrop : (c :: s ++ stop :: rest).dropWhile inName = stop :: rest := by
      rw [List.dropWhile_append_of_pos hname, List.dropWhile_cons_of_neg (by simp [hstop])]
    rw [List.cons_append] at htake hdrop ⊢
    have hopen : (if depth = 0 then closed? tag (c :: (s ++ stop :: rest)) else none) = none := by
      rw [closed?_of_startsName hc, ite_self]
    rw [scanTag, dropWhile_isTagBlank_cons hc]
    simp only [hopen, scanToken, hc, if_true, htake, hdrop, Int.add_zero]

/-- The tokens of an output tag that starts with a name, from those of what follows the name. -/
theorem scan_name {text name : String} (hname : isName name = true) (inside : List Char)
    (htext : text.toList =
      '{' :: '{' :: ' ' :: (name.toList ++ ' ' :: (inside ++ ['}', '}']))) :
    ∃ fuel, scan text.toList =
      outputStart :: .name name :: scanTag (fuel + 9) .output 0 (inside ++ ['}', '}']) := by
  have hend : dropLineEnd text.toList = text.toList := by
    rw [htext]
    simp [dropLineEnd, List.getLast?_cons, List.getLast?_append]
  obtain ⟨fuel, hfuel⟩ : ∃ fuel, 2 * text.toList.length + 1 = fuel + 9 + 1 + 1 := by
    refine ⟨2 * text.toList.length + 1 - 11, ?_⟩
    rw [htext]
    simp only [List.length_cons, List.length_append]
    omega
  refine ⟨fuel, ?_⟩
  rw [scan, hend, hfuel, htext, scanText_opening, scanTag_name hname rfl, scanTag_blank rfl]

/-- The tokens of the template that only outputs a variable. -/
theorem scan_output {name : String} (h : isName name = true) :
    scan (outputOf name).toList = [outputStart, .name name, outputEnd] := by
  have htext : (outputOf name).toList =
      '{' :: '{' :: ' ' :: (name.toList ++ ' ' :: ([] ++ ['}', '}'])) := by simp [outputOf]
  obtain ⟨fuel, hscan⟩ := scan_name h [] htext
  rw [hscan, List.nil_append, scanTag_closing]

end Token

/-! ## Reading -/

/-- Tokens at which an expression ends: neither an operator nor an inline condition starts there. -/
structure Ends (ts : List Token) : Prop where
  operator : ∀ level, operatorAt? level ts = none
  choice : atWord "if" ts = false

theorem ends_outputEnd (ts : List Token) : Ends (.outputEnd :: ts) := ⟨fun _ => rfl, rfl⟩

section Reading

variable {ts rest : List Token} {e : Expr} {n : Nat}

/-- A value with all that follows it, as an expression at any level. There are no operators:
induction from the signs, which bind tightest, down to the loosest operators. -/
theorem readLevel_of_readSigned (hends : Ends rest) (hword : atWord "not" ts = false)
    (hsigned : ∀ fuel, readSigned (fuel + n) ts = .ok (e, rest)) (fuel k : Nat)
    (hk : k ≤ signLevel) :
    readLevel (fuel + k + n + 1) (signLevel - k) ts = .ok (e, rest) := by
  have hoperands : ∀ fuel level, readOperands (fuel + 1) level e rest = .ok (e, rest) := by
    intro fuel level
    rw [readOperands, hends.operator]
  induction k with
  | zero => exact (if_pos rfl).trans (hsigned fuel)
  | succ k ih =>
    have hnext := ih (by omega)
    have hlevel : signLevel - (k + 1) + 1 = signLevel - k := by omega
    have hfuel : fuel + (k + 1) + n + 1 = fuel + k + n + 1 + 1 := by omega
    rw [← hlevel] at hnext
    rw [hfuel, readLevel, if_neg (by omega)]
    split
    · rename_i h2
      rw [h2] at hnext
      rw [if_neg (by simp [hword])]
      exact hnext
    · rw [hnext]
      exact hoperands (fuel + k + n) (signLevel - (k + 1))

/-- A value with all that follows it, as a whole expression. -/
theorem readFull_of_readSigned (hends : Ends rest) (hword : atWord "not" ts = false)
    (hsigned : ∀ fuel, readSigned (fuel + n) ts = .ok (e, rest)) (fuel : Nat) :
    readFull (fuel + n + 10) ts = .ok (e, rest) := by
  -- The loosest operators have level 0, eight levels below the signs.
  have hlevel : readLevel (fuel + 8 + n + 1) 0 ts = .ok (e, rest) :=
    readLevel_of_readSigned hends hword hsigned fuel 8 (by decide)
  have hchoices : readChoices (fuel + 8 + n + 1) e rest = .ok (e, rest) := by
    rw [readChoices, hends.choice]
    rfl
  have hfuel : fuel + n + 10 = fuel + 8 + n + 1 + 1 := by omega
  rw [hfuel, readFull, hlevel]
  exact hchoices

theorem readExpr_of_readSigned (hends : Ends rest) (hword : atWord "not" ts = false)
    (hsigned : ∀ fuel, readSigned (fuel + n) ts = .ok (e, rest)) (hn : n + 10 ≤ readingFuel ts) :
    readExpr ts = .ok (e, rest) := by
  obtain ⟨fuel, hfuel⟩ := Nat.exists_eq_add_of_le hn
  rw [readExpr, hfuel, show n + 10 + fuel = fuel + n + 10 by omega]
  exact readFull_of_readSigned hends hword hsigned fuel

/-- The template of one output tag. -/
theorem read_of_readExpr {text : String} (hscan : Token.scan text.toList = .outputStart :: ts)
    (hexpr : readExpr ts = .ok (e, [.outputEnd])) : Template.read text = .ok ⟨[.output e]⟩ := by
  have hnodes (fuel : Nat) : readNodes (fuel + 2) [] (.outputStart :: ts) =
      .ok ([.output e], []) := by
    rw [readNodes, hexpr]
    rfl
  have hfuel : 2 * (Token.outputStart :: ts).length + 2 = 2 * ts.length + 2 + 2 := by
    rw [List.length_cons]
    omega
  rw [Template.read, hscan]
  show (readNodes (2 * (Token.outputStart :: ts).length + 2) [] (.outputStart :: ts) >>= _) = _
  rw [hfuel, hnodes]
  rfl

end Reading

section Names

variable {name : String} (hname : name ∉ keywords)

include hname

theorem atWord_not_name (ts : List Token) : atWord "not" (.name name :: ts) = false := by
  refine beq_eq_false_iff_ne.mpr ?_
  rintro rfl
  exact hname (by decide)

theorem readSign_name (fuel : Nat) (ts : List Token) :
    readSign (fuel + 2) (.name name :: ts) = .ok (.var name, ts) := by
  simp only [keywords, List.mem_cons, List.not_mem_nil, or_false, not_or] at hname
  rw [readSign, if_neg (by simp [atSymbol])]
  unfold readPrimary
  split <;> simp_all

/-- A name at the end of a tag, with the signs, members, filters and tests that it does not have. -/
theorem readSigned_name (fuel : Nat) (ts : List Token) :
    readSigned (fuel + 3) (.name name :: .outputEnd :: ts) = .ok (.var name, .outputEnd :: ts) := by
  rw [readSigned, readSign_name hname]
  rfl

theorem readExpr_name (ts : List Token) :
    readExpr (.name name :: .outputEnd :: ts) = .ok (.var name, .outputEnd :: ts) :=
  readExpr_of_readSigned (ends_outputEnd ts) (atWord_not_name hname _)
    (fun fuel => readSigned_name hname fuel ts) (by
      rw [readingFuel, List.length_cons, List.length_cons]
      omega)

end Names

/-- The template that only outputs a variable is read as such. -/
theorem read_output {name : String} (hname : isPlaceholderName name.toList = true)
    (hword : name ∉ keywords) : Template.read (outputOf name) = .ok ⟨[.output (.var name)]⟩ :=
  read_of_readExpr (Token.scan_output (isName_of_isPlaceholderName hname)) (readExpr_name hword [])

end Template

theorem Text.eq_of_cutAt? {separator s before after : List Char}
    (h : cutAt? separator s = some (before, after)) : s = before ++ separator ++ after := by
  induction s generalizing before with
  | nil =>
    rw [cutAt?] at h
    split at h
    · rename_i hnil
      obtain rfl := List.prefix_nil.mp (List.isPrefixOf_iff_prefix.mp hnil)
      cases h
      rfl
    · cases h
  | cons c s ih =>
    rw [cutAt?] at h
    split at h
    · rename_i hprefix
      obtain ⟨rest, hrest⟩ := List.isPrefixOf_iff_prefix.mp hprefix
      cases h
      rw [← hrest, List.drop_left, List.nil_append]
    · obtain ⟨⟨before', after'⟩, hcut, heq⟩ := Option.map_eq_some_iff.mp h
      obtain ⟨rfl, rfl⟩ := Prod.mk.inj heq
      rw [ih hcut]
      rfl

namespace Template

/-! ## Variables -/

namespace Context

variable {c : Context} {name : String}

/-- A name with a member is the variable, a point and the member. -/
theorem eq_of_splitName? {key outer inner : String} (h : splitName? key = some (outer, inner)) :
    key = outer ++ "." ++ inner := by
  obtain ⟨⟨before, after⟩, hcut, heq⟩ := Option.map_eq_some_iff.mp h
  obtain ⟨rfl, rfl⟩ := Prod.mk.inj heq
  apply String.toList_inj.mp
  simpa using Text.eq_of_cutAt? hcut

/-- The name of a placeholder has no member. -/
theorem splitName?_eq_none (h : isPlaceholderName name.toList = true) : splitName? name = none := by
  cases hsplit : splitName? name with
  | none => rfl
  | some parts => exact absurd (eq_of_splitName? hsplit) (ne_member_of_isPlaceholderName h _ _)

/-- The variables with members are those in front of a point. -/
theorem exists_of_mem_members {p : String × List (String × Value)} (h : p ∈ c.members) :
    ∃ e ∈ c, ∃ inner, e.1 = p.1 ++ "." ++ inner := by
  induction c with
  | nil => cases h
  | cons e c ih =>
    have hrest : p ∈ members c → ∃ e' ∈ e :: c, ∃ inner, e'.1 = p.1 ++ "." ++ inner := by
      intro hmem
      obtain ⟨e', he', hinner⟩ := ih hmem
      exact ⟨e', List.mem_cons_of_mem _ he', hinner⟩
    rw [members] at h
    split at h
    · rename_i outer inner hsplit
      rcases eq_or_mem_of_mem_updateEntry h with hp | hmem
      · exact ⟨e, List.mem_cons_self, inner, hp ▸ eq_of_splitName? hsplit⟩
      · exact hrest hmem
    · exact hrest h

theorem lookup_plain (h : splitName? name = none) :
    c.plain.lookup name = (c.lookup name).map .str := by
  induction c with
  | nil => rfl
  | cons e c ih =>
    obtain ⟨key, text⟩ := e
    by_cases hkey : name = key
    · subst hkey
      rw [plain, List.filterMap_cons_some (b := (name, .str text)) (by simp [h]),
        List.lookup_cons_self, List.lookup_cons_self, Option.map_some]
    · rw [lookup_cons_of_ne hkey, ← ih, plain]
      cases hsplit : (splitName? key).isSome with
      | true => rw [List.filterMap_cons_none (by simp [hsplit]), plain]
      | false =>
        rw [List.filterMap_cons_some (b := (key, .str text)) (by simp [hsplit])]
        exact lookup_cons_of_ne hkey _ _

/-- A name without members stands for its text. -/
theorem lookup_bindings (hname : isPlaceholderName name.toList = true)
    (h : ∀ e ∈ c, ∀ inner, e.1 ≠ name ++ "." ++ inner) :
    c.bindings.lookup name = (c.lookup name).map .str := by
  rw [bindings, List.lookup_append, lookup_eq_none_of_not_mem, Option.none_or,
    lookup_plain (splitName?_eq_none hname)]
  intro hmem
  rw [List.map_map] at hmem
  obtain ⟨p, hp, rfl⟩ := List.mem_map.mp hmem
  obtain ⟨e, he, inner, hinner⟩ := exists_of_mem_members hp
  exact h e he inner hinner

end Context

/-! ## Rendering -/

/-- A template of one output tag renders to the text of the value of its expression. -/
theorem renderText_eq_ok_iff {text value : String} {e : Expr} {c : Context}
    (hread : Template.read text = .ok ⟨[.output e]⟩) :
    renderText text c = .ok value ↔
      ∃ v, e.value [[], c.bindings] = .ok v ∧ v ≠ .undefined ∧ v.text = value := by
  have hnodes : renderNodes [[], c.bindings] [.output e] =
      (Node.output e).render [[], c.bindings] := by
    rw [renderNodes]
    cases (Node.output e).render [[], c.bindings] with
    | error fault => rfl
    | ok first =>
      show Except.ok (first.1 ++ "", first.2) = _
      rw [String.append_empty]
  have htext : renderText text c = Template.render ⟨[.output e]⟩ c := by rw [renderText, hread]
  rw [htext, Template.render, hnodes, Node.render]
  cases e.value [[], c.bindings] with
  | error fault => cases fault <;> simp [bind, Except.bind]
  | ok v => cases v <;> simp [bind, Except.bind, pure, Except.pure, missing]

/-- The same for a value that is known by its text. -/
theorem renderText_of_text {text value : String} {e : Expr} {c : Context}
    (hread : Template.read text = .ok ⟨[.output e]⟩) (hne : value ≠ "")
    (hvalue : (e.value [[], c.bindings]).toOption.map Value.text = some value) :
    renderText text c = .ok value := by
  cases hresult : e.value [[], c.bindings] with
  | error fault => simp [hresult, Except.toOption] at hvalue
  | ok v =>
    have htext : v.text = value := by simpa [hresult, Except.toOption] using hvalue
    refine (renderText_eq_ok_iff hread).mpr ⟨v, hresult, ?_, htext⟩
    rintro rfl
    exact hne htext.symm

/-- The template that only outputs a variable renders to the text of the variable. -/
theorem renderText_output {c : Context} {name value : String}
    (hname : isPlaceholderName name.toList = true) (hword : name ∉ keywords)
    (hvalue : c.bindings.lookup name = some (.str value)) :
    renderText (outputOf name) c = .ok value := by
  refine (renderText_eq_ok_iff (read_output hname hword)).mpr ⟨.str value, ?_, by simp, rfl⟩
  rw [Expr.value, Scope.find, List.findSome?_cons, List.lookup_nil, List.findSome?_cons, hvalue]
  rfl

-- The other words are not read as variables, whatever is bound to them.
example : ∀ word ∈ keywords, (renderText (outputOf word) [(word, "x")]).toOption ≠ some "x" := by
  decide +kernel

end Template

end Dossier
