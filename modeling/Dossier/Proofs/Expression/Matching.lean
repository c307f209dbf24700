import Dossier.Proofs.Expression.Reading
import Dossier.Proofs.Regex.Lengths
import Dossier.Proofs.Regex.Memory
import Mathlib.Data.List.Basic

/-!
# What simple expressions match

Items can be matched without a regular expression: each one takes a number of characters, the
preferred number first, and the rest of the items is tried after each of them in turn.

* `Item.lengths` : the numbers of characters that an item can take, the preferred one first;
* `matchItems` : the first way to match items from a place on, as the captured places;
* `findItems` : the same from the leftmost place that has one;
* `find_simple` : a compiled simple expression finds what its items find.
-/

namespace Dossier

open Regex

/-! ## Matching items one after the other -/

/-- The numbers of characters that the decimals of a number can take, none at all included. -/
def DecimalSign.decimals (sign : DecimalSign) : List Char → List Nat
  | [] => [0]
  | c :: rest =>
    if c = sign.sign then (longestFirst 0 Char.isDigit rest).map (1 + ·) ++ [0] else [0]

/-- The numbers of characters that a value can take, the preferred one first. -/
def Capture.lengths : Capture → List Char → List Nat
  | .word, rest => longestFirst 1 CharSet.letter.contains rest
  | .int, rest => longestFirst 1 Char.isDigit rest
  | .number sign, rest =>
    (longestFirst 1 (fun c => c.isDigit || c == ' ' || c == sign.separator) rest).flatMap fun n =>
      (sign.decimals (rest.drop n)).map (n + ·)

/-- The numbers of characters that an item can take, the preferred one first. -/
def Item.lengths : Item → List Char → List Nat
  | char c, rest => oneChar (· == c) rest
  | blank, rest => longestFirst 1 Text.isBlank rest
  | anyText, rest => List.range (rest.length + 1)
  | anyChar, rest => oneChar (fun _ => true) rest
  | placeholder _ capture, rest => capture.lengths rest

/-- What an item captures that takes so many characters from an offset on. -/
def Item.captured (offset n : Nat) : Item → List (String × Nat × Nat)
  | placeholder name _ => [(name, offset, offset + n)]
  | _ => []

/-- The first way to match items from an offset on: the places that they capture, if there is
one. -/
def matchItems : List Item → Nat → List Char → Option (List (String × Nat × Nat))
  | [], _, _ => some []
  | item :: items, offset, rest =>
    (item.lengths rest).findSome? fun n =>
      (matchItems items (offset + n) (rest.drop n)).map (item.captured offset n ++ ·)

/-- The first way to match items from the leftmost offset that has one. -/
def findItems (items : List Item) (offset : Nat) : List Char → Option (List (String × Nat × Nat))
  | [] => matchItems items offset []
  | c :: rest => (matchItems items offset (c :: rest)).or (findItems items (offset + 1) rest)

/-- An item that matches captures its names. -/
theorem matchItems_names {items : List Item} {offset : Nat} {rest : List Char}
    {found : List (String × Nat × Nat)} (h : matchItems items offset rest = some found) :
    found.map Prod.fst = placeholderNames items := by
  induction items generalizing offset rest found with
  | nil =>
    cases h
    rfl
  | cons item items ih =>
    obtain ⟨n, -, hn⟩ := List.exists_of_findSome?_eq_some h
    obtain ⟨found', h', rfl⟩ := Option.map_eq_some_iff.mp hn
    rw [List.map_append, ih h']
    cases item <;> rfl

theorem findItems_names {items : List Item} {offset : Nat} {rest : List Char}
    {found : List (String × Nat × Nat)} (h : findItems items offset rest = some found) :
    found.map Prod.fst = placeholderNames items := by
  induction rest generalizing offset with
  | nil => exact matchItems_names h
  | cons c rest ih =>
    rcases Option.or_eq_some_iff.mp h with h | ⟨-, h⟩
    · exact matchItems_names h
    · exact ih h

/-! ## The matches of an item -/

/-- Captured places with the numbers of their groups, newest first. -/
def numbered : Nat → List (String × Nat × Nat) → Captures
  | _, [] => []
  | index, g :: found => numbered (index + 1) found ++ [(index, g.2)]

theorem numbered_append (item : Item) (index offset n : Nat) (found : List (String × Nat × Nat)) :
    numbered index (item.captured offset n ++ found) =
      numbered (item.nextIndex index) found ++ numbered index (item.captured offset n) := by
  cases item <;> simp [Item.captured, Item.nextIndex, numbered]

theorem contains_digits : (digitsAnd []).contains = Char.isDigit := by
  funext c
  simp [contains_digitsAnd]

theorem takes_digits (n : Nat) :
    (Node.star n true (.set (digitsAnd []))).Takes (longestFirst 0 Char.isDigit) := by
  rw [← contains_digits]
  exact Node.Takes.star _ n

theorem oneChar_single (c : Char) : oneChar (CharSet.single c).contains = oneChar (· == c) := by
  congr 1
  funext d
  rw [CharSet.contains_single, Bool.eq_iff_iff]
  simp

/-- The unrolled form of the body of a group that captures a number. -/
theorem ofTree_number (sign : DecimalSign) (n : Nat) :
    Node.ofTree (.seqAll (Capture.number sign).trees) n =
      (.seq (.plus n true (.set (digitsAnd [' ', sign.separator])))
        (.opt (n + 1) true (.seq (.seq (.set (.single sign.sign))
          (.star (n + 2) true (.set (digitsAnd [])))) .empty)), n + 3) := by
  simp [Capture.trees, Tree.seqAll, Node.ofTree, Node.copies, Node.optionalCopies,
    Tree.alwaysTakes, isEmpty_digitsAnd]

theorem DecimalSign.takes_decimals (sign : DecimalSign) (n : Nat) :
    (Node.opt n true (.seq (.seq (.set (.single sign.sign))
      (.star (n + 1) true (.set (digitsAnd [])))) .empty)).Takes sign.decimals := by
  have hsign := Node.Takes.set (.single sign.sign)
  rw [oneChar_single] at hsign
  refine (((hsign.seq (takes_digits (n + 1))).seq Node.Takes.empty).opt n).congr fun rest => ?_
  cases rest with
  | nil => rfl
  | cons c rest => by_cases hc : c = sign.sign <;> simp [oneChar, DecimalSign.decimals, hc]

/-- The body of a group takes what its value can take. -/
theorem Capture.takes (capture : Capture) (n : Nat) :
    (Node.ofTree (.seqAll capture.trees) n).1.Takes capture.lengths := by
  cases capture with
  | word => exact Node.Takes.plus _ n
  | int =>
    have h := Node.Takes.plus (digitsAnd []) n
    rw [contains_digits] at h
    exact h
  | number sign =>
    have hbody : (digitsAnd [' ', sign.separator]).contains =
        fun c => c.isDigit || c == ' ' || c == sign.separator := by
      funext c
      rw [contains_digitsAnd, Bool.eq_iff_iff]
      simp [or_assoc]
    have h := (Node.Takes.plus (digitsAnd [' ', sign.separator]) n).seq
      (sign.takes_decimals (n + 1))
    rw [hbody] at h
    rw [ofTree_number]
    exact h

theorem contains_everything_eq : CharSet.everything.contains = fun _ => true :=
  funext CharSet.contains_everything

/-- The matches of an item take its lengths, and capture what it captures. -/
theorem Item.finds (item : Item) (index n : Nat) (place : Cursor) :
    (Node.ofTree (item.tree index) n).1.finds place =
      (item.lengths place.rest).map fun m =>
        (place.advance m, numbered index (item.captured place.offset m)) := by
  cases item with
  | char c =>
    have h := Node.Takes.set (.single c)
    rw [oneChar_single] at h
    exact h place
  | blank => exact Node.Takes.plus .blank n place
  | anyText =>
    have h := Node.Takes.lazyStar .everything n place
    rw [contains_everything_eq, shortestFirst, runLength_true] at h
    exact h
  | anyChar =>
    have h := Node.Takes.set .everything
    rw [contains_everything_eq] at h
    exact h place
  | placeholder name capture =>
    have h := capture.takes n place
    show ((Node.ofTree (.seqAll capture.trees) n).1.finds place).map _ = _
    rw [h]
    simp [taking, Item.captured, Item.lengths, numbered]

theorem Item.flat (item : Item) (index n : Nat) : (Node.ofTree (item.tree index) n).1.Flat := by
  cases item with
  | char | anyChar => trivial
  | blank | anyText => exact Node.flat_loop_set _
  | placeholder name capture =>
    cases capture with
    | word | int => exact Node.flat_loop_set _
    | number sign =>
      show (Node.ofTree (.seqAll (Capture.number sign).trees) n).1.Flat
      rw [ofTree_number]
      exact ⟨Node.flat_loop_set _, ⟨trivial, Node.flat_loop_set _⟩, trivial⟩

/-! ## The matches of items in a row -/

theorem head?_followedBy (found : List Found) (next : Cursor → List Found) :
    (followedBy found next).head? =
      found.findSome? fun m => (next m.1).head?.map fun n => (n.1, n.2 ++ m.2) := by
  simp [followedBy, List.head?_flatMap, List.head?_map]

/-- The preferred match of the trees of items is the first way to match the items. -/
theorem head?_finds_treesFrom (items : List Item) (index n : Nat) (place : Cursor) :
    ((Node.ofTree (.seqAll (treesFrom index items)) n).1.finds place).head?.map Prod.snd =
      (matchItems items place.offset place.rest).map (numbered index) := by
  induction items generalizing index n place with
  | nil => rfl
  | cons item items ih =>
    rw [treesFrom, finds_seqAll_cons, head?_followedBy, Item.finds, List.findSome?_map, matchItems,
      List.map_findSome?, List.map_findSome?]
    congr 1
    funext m
    have h := ih (item.nextIndex index) (Node.ofTree (item.tree index) n).2 (place.advance m)
    simp only [Cursor.advance_offset, Cursor.advance_rest] at h
    -- On both sides the captures of the item come after those of what follows.
    have hleft : ∀ first : Option Found, (first.map fun f =>
        (f.1, f.2 ++ numbered index (item.captured place.offset m))).map Prod.snd =
          (first.map Prod.snd).map (· ++ numbered index (item.captured place.offset m)) := by
      rintro (_ | _) <;> rfl
    have hright : ∀ found, (Option.map (item.captured place.offset m ++ ·) found).map
        (numbered index) = (found.map (numbered (item.nextIndex index))).map
          (· ++ numbered index (item.captured place.offset m)) := by
      rintro (_ | found)
      · rfl
      · simp [numbered_append]
    simp only [Function.comp_apply, hleft, hright, h]

/-- The captures of the leftmost preferred match are those of the leftmost way to match the
items. -/
theorem leftmost_treesFrom (items : List Item) (index n : Nat) (before : Option Char)
    (offset : Nat) (rest : List Char) :
    ((Node.ofTree (.seqAll (treesFrom index items)) n).1.leftmost before offset rest).map
        Match.captures = (findItems items offset rest).map (numbered index) := by
  have hfirst := fun before offset rest =>
    head?_finds_treesFrom items index n ⟨before, offset, rest⟩
  induction rest generalizing before offset with
  | nil =>
    rw [findItems, ← hfirst before offset, Node.leftmost, Option.map_map]
    rfl
  | cons c rest ih =>
    have h := hfirst before offset (c :: rest)
    rw [findItems, Node.leftmost]
    split
    · rename_i m found hfinds
      rw [hfinds] at h
      obtain ⟨captured, h1, h2⟩ := Option.map_eq_some_iff.mp h.symm
      rw [h1]
      simp [h2]
    · rename_i hfinds
      rw [hfinds] at h
      rw [Option.map_eq_none_iff.mp h.symm, Option.none_or]
      exact ih (some c) (offset + 1)

/-! ## The captured places -/

/-- The groups of items are those of their placeholders. -/
theorem groups_treesFrom (items : List Item) (index : Nat) :
    (Tree.seqAll (treesFrom index items)).groups =
      ((placeholderNames items).zipIdx index).map fun p => (p.2, some p.1) := by
  rw [groups_seqAll]
  induction items generalizing index with
  | nil => rfl
  | cons item items ih =>
    rw [treesFrom, List.flatMap_cons, ih]
    cases item with
    | char | blank | anyText | anyChar => rfl
    | placeholder name capture =>
      have hbody : (Tree.seqAll capture.trees).groups = [] := by
        cases capture <;> rfl
      simp [Item.tree, Tree.groups, hbody, placeholderNames, Item.nextIndex]

theorem namedGroups_treesFrom (items : List Item) (index : Nat) :
    (Tree.seqAll (treesFrom index items)).namedGroups =
      ((placeholderNames items).zipIdx index).map Prod.swap := by
  rw [Tree.namedGroups, groups_treesFrom, List.filterMap_map]
  exact congrFun List.filterMap_eq_map _

/-- The numbers of captured places start at the given one. -/
theorem le_of_mem_numbered {index : Nat} {found : List (String × Nat × Nat)}
    {g : Nat × Nat × Nat} (h : g ∈ numbered index found) : index ≤ g.1 := by
  induction found generalizing index with
  | nil => simp [numbered] at h
  | cons p found ih =>
    rcases List.mem_append.mp h with h | h
    · have := ih h
      omega
    · obtain rfl := List.mem_singleton.mp h
      exact Nat.le_refl _

/-- Looking up the groups by their numbers finds the captured places with their names. -/
theorem filterMap_lookup_numbered (index : Nat) (found : List (String × Nat × Nat)) :
    (((found.map Prod.fst).zipIdx index).map Prod.swap).filterMap
        (fun g => ((numbered index found).lookup g.1).map fun place => (g.2, place)) = found := by
  induction found generalizing index with
  | nil => rfl
  | cons p found ih =>
    have hfirst : (numbered (index + 1) found).lookup index = none := by
      rw [List.lookup_eq_none_iff]
      intro g hg
      have := le_of_mem_numbered hg
      exact bne_iff_ne.mpr (by omega)
    have hothers : ∀ g ∈ ((found.map Prod.fst).zipIdx (index + 1)).map Prod.swap,
        (numbered index (p :: found)).lookup g.1 = (numbered (index + 1) found).lookup g.1 := by
      intro g hg
      obtain ⟨q, hq, rfl⟩ := List.mem_map.mp hg
      have hle : index + 1 ≤ q.2 := List.le_snd_of_mem_zipIdx hq
      have hne : (q.2 == index) = false := beq_false_of_ne (by omega)
      simp [numbered, List.lookup_append, List.lookup_cons, hne]
    have hself : (numbered index (p :: found)).lookup index = some p.2 := by
      simp [numbered, List.lookup_append, hfirst]
    rw [List.map_cons, List.zipIdx_cons, List.map_cons, List.filterMap_cons]
    simp only [Prod.swap_prod_mk, hself, Option.map_some]
    congr 1
    refine Eq.trans (List.filterMap_congr fun g hg => ?_) (ih (index + 1))
    rw [hothers g hg]

/-! ## Compiled simple expressions -/

/-- The captured places of a match as values in the order of their names, and as positions. -/
def groupMatch (text : List Char) (found : List (String × Nat × Nat)) : GroupMatch where
  values := entriesOf (found.map fun g => (g.1, Compiled.cut text g.2))
  positions := found.map Prod.snd

/-- What is known of a compiled expression. -/
theorem compile_ok {e : Expression} {limit : Nat} {c : Compiled} (h : e.compile limit = .ok c) :
    c.expression = e ∧ e.pattern = .ok c.pattern ∧ Tree.read c.pattern.toList = .ok c.tree ∧
      c.tree.fits limit = true := by
  unfold Expression.compile compilePattern Regex.compile at h
  cases hpattern : e.pattern with
  | error fault => simp [hpattern] at h
  | ok pattern =>
    cases htree : Tree.read pattern.toList with
    | error fault => simp [hpattern, htree, Except.bind] at h
    | ok tree =>
      by_cases hfits : tree.fits limit = true
      · simp only [hpattern, htree, Except.bind, hfits, if_true, Except.ok.injEq] at h
        subst h
        exact ⟨rfl, rfl, htree, hfits⟩
      · simp [hpattern, htree, Except.bind, hfits] at h

/-- A compiled simple expression has the tree of its items. -/
theorem compile_simple {e : String} {limit : Nat} {c : Compiled}
    (h : (Expression.simple e).compile limit = .ok c) :
    ∃ items, readItems e = .ok items ∧ c.tree = treeOf items := by
  obtain ⟨-, hpattern, hread, -⟩ := compile_ok h
  simp only [Expression.pattern, simplePattern] at hpattern
  cases hitems : readItems e with
  | error fault =>
    rw [hitems] at hpattern
    cases hpattern
  | ok items =>
    rw [hitems] at hpattern
    have hp : String.ofList (patternOf items) = c.pattern := Except.ok.inj hpattern
    rw [← hp, String.toList_ofList, read_patternOf (properNames_readItems hitems)] at hread
    exact ⟨items, rfl, (Except.ok.inj hread).symm⟩

/-- Items that are read are an expression just if their tree is within the limit. -/
theorem compile_eq_of_readItems {e : String} {items : List Item} (hitems : readItems e = .ok items)
    (limit : Nat) :
    (Expression.simple e).compile limit =
      if (treeOf items).fits limit then
        .ok ⟨.simple e, String.ofList (patternOf items), treeOf items⟩
      else .error (.invalidPattern (String.ofList (patternOf items)) (.tooLarge limit)) := by
  simp only [Expression.compile, Expression.pattern, simplePattern, hitems, Except.map,
    compilePattern, Regex.compile, String.toList_ofList,
    read_patternOf (properNames_readItems hitems), Except.bind]
  cases (treeOf items).fits limit <;> rfl

theorem compile_of_readItems {e : String} {limit : Nat} {items : List Item}
    (hitems : readItems e = .ok items) (hfits : (treeOf items).fits limit = true) :
    (Expression.simple e).compile limit =
      .ok ⟨.simple e, String.ofList (patternOf items), treeOf items⟩ := by
  rw [compile_eq_of_readItems hitems, if_pos hfits]

theorem flat_treesFrom (items : List Item) (index n : Nat) :
    (Node.ofTree (.seqAll (treesFrom index items)) n).1.Flat := by
  refine flat_seqAll ?_ n
  induction items generalizing index with
  | nil => simp [treesFrom]
  | cons item items ih =>
    intro t ht
    rcases List.mem_cons.mp ht with rfl | ht
    · exact item.flat index
    · exact ih _ t ht

/-- The named groups of a match of items, with the places that the items captured. -/
theorem captured_treeOf {c : Compiled} {items : List Item} (htree : c.tree = treeOf items)
    {m : Match} {text : List Char} {found : List (String × Nat × Nat)}
    (hfound : findItems items 0 text = some found) (hm : m.captures = numbered 1 found) :
    c.captured m = found := by
  unfold Compiled.captured
  rw [htree, treeOf, namedGroups_treesFrom, hm, ← findItems_names hfound]
  exact filterMap_lookup_numbered 1 found

/-- An expression whose items are known finds in a text what they find. -/
theorem find_of_readItems {e : String} {limit : Nat} {c : Compiled} {items : List Item}
    (h : (Expression.simple e).compile limit = .ok c) (hitems : readItems e = .ok items)
    (text : String) :
    c.find text = (findItems items 0 text.toList).map (groupMatch text.toList) := by
  have htree : c.tree = treeOf items := by
    obtain ⟨items', hitems', htree⟩ := compile_simple h
    obtain rfl := Except.ok.inj (hitems.symm.trans hitems')
    exact htree
  have hflat : (Node.ofTree c.tree 0).1.Flat := by
    rw [htree]
    exact flat_treesFrom items 1 0
  have hcaptures := leftmost_treesFrom items 1 0 none 0 text.toList
  unfold Compiled.find
  rw [search_eq_leftmost hflat, htree]
  cases hm : (Node.ofTree (treeOf items) 0).1.leftmost none 0 text.toList with
  | none =>
    rw [treeOf] at hm
    rw [hm] at hcaptures
    rw [Option.map_eq_none_iff.mp hcaptures.symm]
    rfl
  | some m =>
    rw [treeOf] at hm
    rw [hm] at hcaptures
    obtain ⟨found, hfound, hnumbered⟩ := Option.map_eq_some_iff.mp hcaptures.symm
    rw [hfound, Option.map_some, Option.map_some, captured_treeOf htree hfound hnumbered.symm]
    rfl

/-- A compiled simple expression finds in a text what its items find. -/
theorem find_simple {e : String} {limit : Nat} {c : Compiled}
    (h : (Expression.simple e).compile limit = .ok c) :
    ∃ items, readItems e = .ok items ∧
      ∀ text, c.find text = (findItems items 0 text.toList).map (groupMatch text.toList) := by
  obtain ⟨items, hitems, -⟩ := compile_simple h
  exact ⟨items, hitems, find_of_readItems h hitems⟩

theorem find_simple_word :
    ∃ items, readItems "To: <name:word>" = .ok items ∧
      let c : Compiled :=
        ⟨.simple "To: <name:word>", String.ofList (patternOf items), treeOf items⟩
      ∀ text, c.find text = (findItems items 0 text.toList).map (groupMatch text.toList) := by
  have hitems : readItems "To: <name:word>" =
      .ok [.char 'T', .char 'o', .char ':', .blank, .placeholder "name" .word] := by rfl
  obtain ⟨items, h, hfind⟩ :=
    find_simple (@compile_of_readItems _ 100000 _ hitems (by decide +kernel))
  obtain rfl := Except.ok.inj (hitems.symm.trans h)
  exact ⟨_, hitems, hfind⟩

-- The number takes the space, and leaves its last decimal to the digits that have to follow.
example : findItems [.placeholder "a" (.number .dot), .placeholder "b" .int] 0
    "x 12.345".toList = some [("a", 1, 7), ("b", 7, 8)] := by rfl

end Dossier
