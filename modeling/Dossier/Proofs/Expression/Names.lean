import Dossier.Proofs.Expression.Matching

/-!
# The groups of simple expressions

Which groups the regular expression of a simple expression has can be told from the text alone. Only
two signs count, the bracket that opens a placeholder and the one that closes it; what stands
between them up to a colon is the name of a group, and nothing else in the text makes one.

* `Sign`, `readSigns` : the characters of a text, those after a backslash apart from the others;
* `bodies` : what stands between the angle brackets;
* `placeholderNamesIn` : the names that the text gives to its placeholders;
* `placeholderNames_readItemsFrom` : reading items keeps these names and adds none;
* `groups_simplePattern` : the expression is well-formed, and its groups have these names.
-/

namespace Dossier

open Regex

/-! ## Names in a text -/

/-- A character of the text of a simple expression. -/
structure Sign where
  char : Char
  /-- A backslash in front makes the character stand for itself. -/
  escaped : Bool
deriving DecidableEq, Repr

/-- The characters that are left of a text once the backslashes in front of wildcards and brackets
are read. -/
def readSigns : List Char → List Sign
  | [] => []
  | '\\' :: d :: rest =>
    if isDelimiter d then ⟨d, true⟩ :: readSigns rest else ⟨'\\', false⟩ :: readSigns (d :: rest)
  | c :: rest => ⟨c, false⟩ :: readSigns rest

/-- The texts between angle brackets, given, inside of brackets, the characters since the opening
one in reverse. -/
def bodies : Option (List Char) → List Sign → List (List Char)
  | _, [] => []
  | none, s :: signs => if s = ⟨'<', false⟩ then bodies (some []) signs else bodies none signs
  | some body, s :: signs =>
    if s = ⟨'>', false⟩ then body.reverse :: bodies none signs
    else bodies (some (s.char :: body)) signs

/-- The name in the text between two brackets: what stands before the first colon. -/
def nameIn (body : List Char) : String := String.ofList ((Text.trim body).takeWhile (· != ':'))

/-- The names of the placeholders in a text, in the order in which they stand. -/
def placeholderNamesIn (text : String) : List String :=
  (bodies none (readSigns text.toList)).map nameIn

/-! ## Names of the items that are read -/

theorem head?_splitColons (s : List Char) :
    (splitColons s).head? = some (s.takeWhile (· != ':')) := by
  induction s with
  | nil => rfl
  | cons c rest ih =>
    by_cases hc : c = ':'
    · simp [splitColons, hc]
    · cases hrest : splitColons rest with
      | nil => simp [hrest] at ih
      | cons part parts =>
        rw [hrest, List.head?_cons, Option.some.injEq] at ih
        simp [splitColons, hc, hrest, ih]

/-- A placeholder gets the name that stands between its brackets. -/
theorem readPlaceholder_name {used : List String} {body : List Char} {item : Item}
    (h : readPlaceholder used body = .ok item) :
    ∃ capture, item = .placeholder (nameIn body) capture := by
  obtain ⟨name, parts, capture, hparts, rfl, -⟩ := readPlaceholder_ok h
  have hname := head?_splitColons (Text.trim body)
  rw [hparts, List.head?_cons, Option.some.injEq] at hname
  exact ⟨capture, by rw [nameIn, hname]⟩

theorem placeholderNames_pushChar (items : List Item) (c : Char) :
    placeholderNames (pushChar items c) = placeholderNames items := by
  unfold pushChar
  split
  · split <;> rfl
  · rfl

/-- A character that is no backslash in front of another one is a sign of its own. -/
theorem readSigns_cons {c : Char} {rest : List Char}
    (h : ∀ d rest', c = '\\' → rest = d :: rest' → False) :
    readSigns (c :: rest) = ⟨c, false⟩ :: readSigns rest := by
  rw [readSigns]
  exact h

theorem bodies_none_of_ne {s : Sign} (h : s ≠ ⟨'<', false⟩) (signs : List Sign) :
    bodies none (s :: signs) = bodies none signs := if_neg h

theorem bodies_some_of_ne {s : Sign} (h : s ≠ ⟨'>', false⟩) (body : List Char)
    (signs : List Sign) : bodies (some body) (s :: signs) = bodies (some (s.char :: body)) signs :=
  if_neg h

/-- The items that are read have the names of those before and the names in the text. -/
theorem placeholderNames_readItemsFrom {items items' : List Item} {body : Option (List Char)}
    {text : List Char} (h : readItemsFrom items body text = .ok items') :
    placeholderNames items' =
      (placeholderNames items).reverse ++ (bodies body (readSigns text)).map nameIn := by
  fun_induction readItemsFrom items body text with
  | case1 => cases h
  | case2 items body =>
    cases h
    simp [placeholderNames, readSigns, bodies, List.filterMap_reverse]
  -- After a backslash: a sign inside a placeholder is one more of its characters, and one outside
  -- opens none.
  | case3 _ _ _ hd _ ih =>
    rw [ih h, readSigns, if_pos hd, bodies_some_of_ne (by simp)]
  | case4 _ _ _ hd ih =>
    rw [ih h, placeholderNames_pushChar, readSigns, if_pos hd, bodies_none_of_ne (by simp)]
  | case5 _ _ _ hd _ ih =>
    rw [ih h, readSigns, if_neg hd, bodies_some_of_ne (by simp)]
  | case6 _ _ _ hd ih =>
    rw [ih h, placeholderNames_pushChar, readSigns, if_neg hd, bodies_none_of_ne (by simp)]
  -- The end of a placeholder.
  | case7 items _ body _ hitem hc ih =>
    obtain ⟨capture, rfl⟩ := readPlaceholder_name hitem
    have hnames : placeholderNames (.placeholder (nameIn body.reverse) capture :: items) =
        nameIn body.reverse :: placeholderNames items := rfl
    rw [ih h, hnames, readSigns_cons hc, List.reverse_cons, List.append_assoc]
    rfl
  | case8 => cases h
  | case9 _ _ _ hc _ hne ih =>
    rw [ih h, readSigns_cons hc, bodies_some_of_ne (by simp [hne])]
  -- The start of a placeholder.
  | case10 _ _ hc ih =>
    rw [ih h, readSigns_cons hc]
    rfl
  | case11 _ _ hc _ ih | case12 _ _ hc _ _ ih =>
    rw [ih h, readSigns_cons hc, bodies_none_of_ne (by simp)]
    rfl
  -- A bracket that closes nothing.
  | case13 _ _ hc _ _ _ ih => rw [ih h, readSigns_cons hc, bodies_none_of_ne (by simp)]
  | case14 _ _ _ hc hne _ _ _ ih =>
    rw [ih h, placeholderNames_pushChar, readSigns_cons hc, bodies_none_of_ne (by simp [hne])]

theorem placeholderNames_readItems {text : String} {items : List Item}
    (h : readItems text = .ok items) : placeholderNames items = placeholderNamesIn text :=
  placeholderNames_readItemsFrom h

/-! ## The regular expression -/

/-- The regular expression of a simple expression is well-formed, so that only its size can keep it
from being used. Its groups are the placeholders of the text: they are numbered as they stand there,
all of them have names, and no name is used twice. -/
theorem groups_simplePattern {text pattern : String} (h : simplePattern text = .ok pattern) :
    ∃ tree, Tree.read pattern.toList = .ok tree ∧
      tree.groups = ((placeholderNamesIn text).zipIdx 1).map (fun p => (p.2, some p.1)) ∧
      (placeholderNamesIn text).Nodup ∧
      (⟨.simple text, pattern, tree⟩ : Compiled).groupNames = placeholderNamesIn text ∧
      ∀ sizeLimit, (Expression.simple text).compile sizeLimit =
        if tree.fits sizeLimit then .ok ⟨.simple text, pattern, tree⟩
        else .error (.invalidPattern pattern (.tooLarge sizeLimit)) := by
  cases hitems : readItems text with
  | error fault => simp [simplePattern, hitems, Except.map] at h
  | ok items =>
    obtain rfl : String.ofList (patternOf items) = pattern := by
      simpa [simplePattern, hitems, Except.map] using h
    have hproper := properNames_readItems hitems
    have hnames := placeholderNames_readItems hitems
    refine ⟨treeOf items, ?_, ?_, hnames ▸ hproper.1, ?_, compile_eq_of_readItems hitems⟩
    · rw [String.toList_ofList, read_patternOf hproper]
    · rw [← hnames]
      exact groups_treesFrom items 1
    · show (treeOf items).namedGroups.map Prod.snd = _
      rw [treeOf, namedGroups_treesFrom, hnames, List.map_map]
      exact List.zipIdx_map_fst 1 _

/-- The groups of a text with wildcards, a bracket that closes nothing, brackets that stand for
themselves, and blanks in front of a name. -/
theorem groups_simplePattern_escaped :
    ∃ tree,
      Tree.read "a.*?<b:int>(?P<n>[0-9]+).(?P<x>[0-9 .]+(?:,[0-9]*)?)".toList = .ok tree ∧
      tree.groups = [(1, some "n"), (2, some "x")] := by
  have htext : placeholderNamesIn "a>*\\<b:int\\>< n:int>?<x:number:comma>" = ["n", "x"] := by
    decide +kernel
  have hpattern : simplePattern "a>*\\<b:int\\>< n:int>?<x:number:comma>" =
      .ok "a.*?<b:int>(?P<n>[0-9]+).(?P<x>[0-9 .]+(?:,[0-9]*)?)" := by
    rfl
  obtain ⟨tree, hread, hgroups, -⟩ := groups_simplePattern hpattern
  exact ⟨tree, hread, by rw [hgroups, htext]; rfl⟩

end Dossier
