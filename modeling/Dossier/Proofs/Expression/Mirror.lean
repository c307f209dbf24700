import Dossier.Proofs.Entries
import Dossier.Proofs.Expression.Matching
import Mathlib.Data.List.Permutation

/-!
# Mirrored items

In the two ways to write numbers points and commas have each other's place. If they change places in
the items of an expression and in a text, nothing changes in what the items find but the points and
commas in the values.

* `mirrorChar`, `mirrored` : points and commas change places;
* `Item.mirrored` : the same in an item, whose numbers get the other decimal sign;
* `Item.lengths_mirrored`, `findItems_mirrored` : mirrored items in a mirrored text;
* `fits_mirrored` : mirrored items are within the same limits.
-/

namespace Dossier

open Regex

/-! ## Points and commas -/

/-- The other one of a point and a comma. All other characters stay as they are. -/
def mirrorChar (c : Char) : Char := if c = '.' then ',' else if c = ',' then '.' else c

/-- A text with points and commas in each other's place. -/
def mirrored (s : String) : String := String.ofList (s.toList.map mirrorChar)

theorem mirrorChar_cases (c : Char) :
    (c = '.' ∧ mirrorChar c = ',') ∨ (c = ',' ∧ mirrorChar c = '.') ∨
      (c ≠ '.' ∧ c ≠ ',' ∧ mirrorChar c = c) := by
  by_cases h1 : c = '.'
  · exact .inl ⟨h1, by rw [h1]; rfl⟩
  · by_cases h2 : c = ','
    · exact .inr (.inl ⟨h2, by rw [h2]; rfl⟩)
    · exact .inr (.inr ⟨h1, h2, by rw [mirrorChar, if_neg h1, if_neg h2]⟩)

theorem mirrorChar_mirrorChar (c : Char) : mirrorChar (mirrorChar c) = c := by
  rcases mirrorChar_cases c with ⟨rfl, -⟩ | ⟨rfl, -⟩ | ⟨-, -, h⟩
  · rfl
  · rfl
  · rw [h, h]

theorem mirrorChar_eq_iff {c d : Char} : mirrorChar c = d ↔ c = mirrorChar d := by
  constructor
  · rintro rfl
    exact (mirrorChar_mirrorChar c).symm
  · rintro rfl
    exact mirrorChar_mirrorChar d

/-- A property that a point and a comma share says the same of mirrored characters. -/
theorem apply_mirrorChar {α : Type} {f : Char → α} (h : f '.' = f ',') (c : Char) :
    f (mirrorChar c) = f c := by
  rcases mirrorChar_cases c with ⟨rfl, hc⟩ | ⟨rfl, hc⟩ | ⟨-, -, hc⟩
  · rw [hc, h]
  · rw [hc, h]
  · rw [hc]

theorem isBlank_mirrorChar (c : Char) : Text.isBlank (mirrorChar c) = Text.isBlank c :=
  apply_mirrorChar rfl c

theorem isDigit_mirrorChar (c : Char) : (mirrorChar c).isDigit = c.isDigit :=
  apply_mirrorChar (f := Char.isDigit) rfl c

/-! ## Items -/

/-- The other decimal sign. -/
def DecimalSign.other : DecimalSign → DecimalSign
  | dot => comma
  | comma => dot

/-- A placeholder that captures mirrored values. -/
def Capture.mirrored : Capture → Capture
  | number sign => number sign.other
  | capture => capture

/-- An item for mirrored texts. -/
def Item.mirrored : Item → Item
  | char c => char (mirrorChar c)
  | placeholder name capture => placeholder name capture.mirrored
  | item => item

theorem placeholderNames_mirrored (items : List Item) :
    placeholderNames (items.map Item.mirrored) = placeholderNames items := by
  rw [placeholderNames, List.filterMap_map]
  refine List.filterMap_congr fun item _ => ?_
  cases item <;> rfl

/-! ## What items take -/

section Lengths

variable {p q : Char → Bool} {rest : List Char}

theorem longestFirst_mirror (h : ∀ c, q (mirrorChar c) = p c) (least : Nat) :
    longestFirst least q (rest.map mirrorChar) = longestFirst least p rest := by
  have hp : q ∘ mirrorChar = p := funext h
  rw [longestFirst, longestFirst, runLength, runLength, List.takeWhile_map, hp, List.length_map]

theorem oneChar_mirror (h : ∀ c, q (mirrorChar c) = p c) :
    oneChar q (rest.map mirrorChar) = oneChar p rest := by
  cases rest with
  | nil => rfl
  | cons c rest =>
    have hfirst : ((c :: rest).map mirrorChar).head?.any q = (c :: rest).head?.any p := h c
    rw [oneChar, hfirst]
    rfl

theorem DecimalSign.sign_other (sign : DecimalSign) : sign.other.sign = mirrorChar sign.sign := by
  cases sign <;> rfl

theorem DecimalSign.separator_other (sign : DecimalSign) :
    sign.other.separator = mirrorChar sign.separator := by
  cases sign <;> rfl

theorem DecimalSign.decimals_mirrored (sign : DecimalSign) (rest : List Char) :
    sign.other.decimals (rest.map mirrorChar) = sign.decimals rest := by
  cases rest with
  | nil => rfl
  | cons c rest =>
    simp only [List.map_cons, decimals, sign.sign_other, mirrorChar_eq_iff, mirrorChar_mirrorChar,
      longestFirst_mirror isDigit_mirrorChar]

theorem Capture.lengths_mirrored (capture : Capture) (rest : List Char) :
    capture.mirrored.lengths (rest.map mirrorChar) = capture.lengths rest := by
  cases capture with
  | word => exact longestFirst_mirror (apply_mirrorChar (by decide +kernel)) 1
  | int => exact longestFirst_mirror isDigit_mirrorChar 1
  | number sign =>
    have hbody : ∀ c, ((mirrorChar c).isDigit || mirrorChar c == ' ' ||
        mirrorChar c == sign.other.separator) = (c.isDigit || c == ' ' || c == sign.separator) := by
      intro c
      have hblank : (mirrorChar c == ' ') = (c == ' ') := apply_mirrorChar (f := (· == ' ')) rfl c
      have hseparator : (mirrorChar c == sign.other.separator) = (c == sign.separator) := by
        rw [sign.separator_other, Bool.eq_iff_iff, beq_iff_eq, beq_iff_eq, mirrorChar_eq_iff,
          mirrorChar_mirrorChar]
      rw [isDigit_mirrorChar, hblank, hseparator]
    have hlongest : longestFirst 1 (fun c => c.isDigit || c == ' ' || c == sign.other.separator)
        (rest.map mirrorChar) =
          longestFirst 1 (fun c => c.isDigit || c == ' ' || c == sign.separator) rest :=
      longestFirst_mirror hbody 1
    simp only [mirrored, lengths, hlongest, ← List.map_drop, sign.decimals_mirrored]

/-- A mirrored item takes of a mirrored text what the item takes of the text. -/
theorem Item.lengths_mirrored (item : Item) (rest : List Char) :
    item.mirrored.lengths (rest.map mirrorChar) = item.lengths rest := by
  cases item with
  | char c =>
    refine oneChar_mirror fun d => ?_
    rw [Bool.eq_iff_iff, beq_iff_eq, beq_iff_eq, mirrorChar_eq_iff, mirrorChar_mirrorChar]
  | blank => exact longestFirst_mirror isBlank_mirrorChar 1
  | anyText => exact congrArg (fun n => List.range (n + 1)) (List.length_map mirrorChar)
  | anyChar => exact oneChar_mirror fun _ => rfl
  | placeholder name capture => exact capture.lengths_mirrored rest

end Lengths

/-! ## What items find -/

theorem Item.captured_mirrored (item : Item) (offset n : Nat) :
    item.mirrored.captured offset n = item.captured offset n := by
  cases item <;> rfl

theorem matchItems_mirrored (items : List Item) (offset : Nat) (rest : List Char) :
    matchItems (items.map Item.mirrored) offset (rest.map mirrorChar) =
      matchItems items offset rest := by
  induction items generalizing offset rest with
  | nil => rfl
  | cons item items ih =>
    rw [List.map_cons, matchItems, matchItems, item.lengths_mirrored]
    simp only [← List.map_drop, ih, item.captured_mirrored]

/-- Mirrored items find at the same places of a mirrored text what the items find in the text. -/
theorem findItems_mirrored (items : List Item) (offset : Nat) (rest : List Char) :
    findItems (items.map Item.mirrored) offset (rest.map mirrorChar) =
      findItems items offset rest := by
  induction rest generalizing offset with
  | nil => exact matchItems_mirrored items offset []
  | cons c rest ih =>
    have hfirst := matchItems_mirrored items offset (c :: rest)
    rw [List.map_cons] at hfirst
    rw [List.map_cons, findItems, findItems, hfirst, ih]

/-- The groups of a match with their values mirrored. -/
def GroupMatch.mirrored (m : GroupMatch) : GroupMatch where
  values := m.values.map fun value => (value.1, Dossier.mirrored value.2)
  positions := m.positions

theorem cut_mirrored (text : List Char) (place : Nat × Nat) :
    Compiled.cut (text.map mirrorChar) place = mirrored (Compiled.cut text place) := by
  simp only [Compiled.cut, mirrored, String.toList_ofList, List.map_take, List.map_drop]

theorem groupMatch_mirrored (text : List Char) (found : List (String × Nat × Nat)) :
    groupMatch (text.map mirrorChar) found = (groupMatch text found).mirrored := by
  have hvalues : (found.map fun g => (g.1, Compiled.cut (text.map mirrorChar) g.2)) =
      (found.map fun g => (g.1, Compiled.cut text g.2)).map fun value =>
        (value.1, mirrored value.2) := by
    rw [List.map_map]
    exact List.map_congr_left fun g _ => by rw [cut_mirrored]; rfl
  rw [groupMatch, hvalues, entriesOf_map]
  rfl

/-! ## Sizes -/

/-- Two expressions of one size, of which both or none is plain text. -/
structure Regex.Tree.SameSize (a b : Tree) : Prop where
  size : a.size = b.size
  isText : a.isText = b.isText

namespace Regex.Tree.SameSize

variable {a b a' b' : Tree}

theorem fits_eq (h : a.SameSize b) (limit : Nat) : a.fits limit = b.fits limit := by
  rw [fits, fits, h.size, h.isText]

theorem seq (h : a.SameSize b) (h' : a'.SameSize b') :
    (Tree.seq a a').SameSize (Tree.seq b b') := by
  constructor
  · rw [Tree.size, Tree.size, h.size, h'.size]
  · rw [Tree.isText, Tree.isText, h.isText, h'.isText]

theorem seqAll {ts us : List Tree} (h : List.Forall₂ SameSize ts us) :
    (Tree.seqAll ts).SameSize (Tree.seqAll us) := by
  induction h with
  | nil => exact ⟨rfl, rfl⟩
  | cons hfirst hrest ih =>
    cases hrest with
    | nil => exact hfirst
    | cons => exact hfirst.seq ih

end Regex.Tree.SameSize

theorem Capture.size_mirrored (capture : Capture) :
    (Tree.seqAll capture.mirrored.trees).size = (Tree.seqAll capture.trees).size := by
  have hnumber : (Tree.seqAll (Capture.number .dot).trees).size =
      (Tree.seqAll (Capture.number .comma).trees).size := by cbv
  rcases capture with _ | _ | (_ | _)
  · rfl
  · rfl
  · exact hnumber.symm
  · exact hnumber

theorem Item.sameSize_mirrored (item : Item) (index : Nat) :
    (item.mirrored.tree index).SameSize (item.tree index) := by
  cases item with
  | char c =>
    rcases mirrorChar_cases c with ⟨rfl, -⟩ | ⟨rfl, -⟩ | ⟨-, -, hc⟩
    · exact ⟨rfl, rfl⟩
    · exact ⟨rfl, rfl⟩
    · rw [mirrored, hc]
      exact ⟨rfl, rfl⟩
  | blank | anyText | anyChar => exact ⟨rfl, rfl⟩
  | placeholder name capture =>
    refine ⟨?_, rfl⟩
    simp only [mirrored, tree, Tree.size, capture.size_mirrored]

/-- Mirrored items are within the limits that the items are within. -/
theorem fits_mirrored (items : List Item) (limit : Nat) :
    (treeOf (items.map Item.mirrored)).fits limit = (treeOf items).fits limit := by
  have htrees : ∀ index, List.Forall₂ Tree.SameSize
      (treesFrom index (items.map Item.mirrored)) (treesFrom index items) := by
    induction items with
    | nil => exact fun _ => .nil
    | cons item items ih =>
      intro index
      have hnext : item.mirrored.nextIndex index = item.nextIndex index := by cases item <;> rfl
      rw [List.map_cons, treesFrom, treesFrom, hnext]
      exact .cons (item.sameSize_mirrored index) (ih _)
  exact (Tree.SameSize.seqAll (htrees 1)).fits_eq limit

end Dossier
