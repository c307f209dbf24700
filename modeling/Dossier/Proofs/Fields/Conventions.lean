import Dossier.Fields.Filter
import Dossier.Proofs.Expression.MirrorText
import Dossier.Proofs.Number.Amount

/-!
# The two ways to write numbers

Amounts are read alike whether a point or a comma stands before their decimals, and simple
expressions find them alike. A text that leaves open which of its signs is the decimal one has no
amount, as its comma cannot be read, and neither has its mirror.

* `plainAmount_mirror`, `plainAmount_of_open` : the plain spellings of a text and its mirror;
* `parseMonetary_mirror` : the amounts of a text and its mirror;
* `conventions_mirrored` : expressions and amounts.
-/

namespace Dossier

/-- A comma is never read. -/
theorem Amount.read?_eq_none {s : List Char} (h : ',' ∈ s) : read? s = none := by
  refine Option.eq_none_iff_forall_ne_some.mpr fun a ha => ?_
  cases List.all_eq_true.mp (all_of_read? ha) ',' h

/-! ## Plain spellings -/

theorem dropBlanks_mirror (s : List Char) :
    Text.dropBlanks (s.map mirrorChar) = (Text.dropBlanks s).map mirrorChar := by
  have hblank : (fun c => !Text.isBlank c) ∘ mirrorChar = fun c => !Text.isBlank c :=
    funext fun c => congrArg not (isBlank_mirrorChar c)
  rw [Text.dropBlanks, List.filter_map, hblank, Text.dropBlanks]

theorem mem_map_mirrorChar {c : Char} {s : List Char} :
    c ∈ s.map mirrorChar ↔ mirrorChar c ∈ s := by
  constructor
  · intro h
    obtain ⟨d, hd, rfl⟩ := List.mem_map.mp h
    rwa [mirrorChar_mirrorChar]
  · intro h
    exact List.mem_map.mpr ⟨_, h, mirrorChar_mirrorChar c⟩

theorem map_mirrorChar_mirrorChar (s : List Char) : (s.map mirrorChar).map mirrorChar = s := by
  rw [List.map_map]
  exact List.map_id'' mirrorChar_mirrorChar s

/-- A comma as a point. -/
theorem toPoint_mirrorChar (c : Char) :
    (if mirrorChar c = ',' then '.' else mirrorChar c) = if c = ',' then '.' else c :=
  apply_mirrorChar (f := fun c => if c = ',' then '.' else c) rfl c

section Plain

variable {s t : List Char}

/-- With a point in the third place from the end, its mirror has a comma there. -/
theorem plainAmount_mirror_of_point (hs : Text.dropBlanks s = t) (hcomma : ',' ∈ t)
    (hpoint : '.' ∈ t) (hthird : t.reverse[2]? = some '.') :
    plainAmount (s.map mirrorChar) = plainAmount s := by
  have hthird' : (t.map mirrorChar).reverse[2]? = some ',' := by
    rw [← List.map_reverse, List.getElem?_map, hthird]
    rfl
  have hcomma' : ',' ∈ t.map mirrorChar := mem_map_mirrorChar.mpr hpoint
  have hpoint' : '.' ∈ t.map mirrorChar := mem_map_mirrorChar.mpr hcomma
  have hfilter : (fun c => c != '.') ∘ mirrorChar = fun c => c != ',' := by
    funext c
    rw [Function.comp_apply, Bool.eq_iff_iff, bne_iff_ne, bne_iff_ne, Ne, mirrorChar_eq_iff]
    rfl
  simp only [plainAmount, dropBlanks_mirror, hs, List.contains_iff_mem.mpr hcomma,
    List.contains_iff_mem.mpr hpoint, List.contains_iff_mem.mpr hcomma',
    List.contains_iff_mem.mpr hpoint', hthird, hthird', Bool.and_self, if_true, List.filter_map,
    List.map_map, hfilter]
  refine (List.map_congr_left fun c hc => ?_).trans (List.map_id _)
  have hne : c ≠ ',' := by simpa using (List.mem_filter.mp hc).2
  rw [Function.comp_apply, toPoint_mirrorChar, if_neg hne, id_eq]

/-- Without one of the two signs, all commas are points. -/
theorem plainAmount_of_not_mem (hs : Text.dropBlanks s = t) (h : ',' ∉ t ∨ '.' ∉ t) :
    plainAmount s = t.map fun c => if c = ',' then '.' else c := by
  have hboth : (t.contains ',' && t.contains '.') = false := by
    rw [Bool.eq_false_iff, Ne, Bool.and_eq_true, List.contains_iff_mem, List.contains_iff_mem,
      not_and_or]
    exact h
  simp only [plainAmount, hs, hboth, Bool.false_eq_true, if_false]

theorem third_mirror (t : List Char) (c : Char) :
    (t.map mirrorChar).reverse[2]? = some c ↔ t.reverse[2]? = some (mirrorChar c) := by
  rw [← List.map_reverse, List.getElem?_map, Option.map_eq_some_iff]
  constructor
  · rintro ⟨d, hd, rfl⟩
    rw [hd, mirrorChar_mirrorChar]
  · intro h
    exact ⟨_, h, mirrorChar_mirrorChar c⟩

/-- A text that leaves open which sign is the decimal one stays as it is, and so does its mirror. -/
theorem plainAmount_of_open (hs : Text.dropBlanks s = t) (hcomma : ',' ∈ t) (hpoint : '.' ∈ t)
    (hthird : t.reverse[2]? ≠ some '.') (hthird' : t.reverse[2]? ≠ some ',') :
    plainAmount s = t ∧ plainAmount (s.map mirrorChar) = t.map mirrorChar := by
  have hplain : ∀ {s t : List Char}, Text.dropBlanks s = t → ',' ∈ t → '.' ∈ t →
      t.reverse[2]? ≠ some '.' → t.reverse[2]? ≠ some ',' → plainAmount s = t := by
    intro s t hs hcomma hpoint hthird hthird'
    simp only [plainAmount, hs, List.contains_iff_mem.mpr hcomma, List.contains_iff_mem.mpr hpoint,
      Bool.and_self, if_true]
  refine ⟨hplain hs hcomma hpoint hthird hthird', hplain (by rw [dropBlanks_mirror, hs])
    (mem_map_mirrorChar.mpr hpoint) (mem_map_mirrorChar.mpr hcomma) ?_ ?_⟩
  · exact fun h => hthird' ((third_mirror t '.').mp h)
  · exact fun h => hthird ((third_mirror t ',').mp h)

/-- A text and its mirror have one plain spelling unless they leave open which sign is the decimal
one. -/
theorem plainAmount_mirror (hs : Text.dropBlanks s = t)
    (h : ',' ∉ t ∨ '.' ∉ t ∨ t.reverse[2]? = some '.' ∨ t.reverse[2]? = some ',') :
    plainAmount (s.map mirrorChar) = plainAmount s := by
  have hs' : Text.dropBlanks (s.map mirrorChar) = t.map mirrorChar := by rw [dropBlanks_mirror, hs]
  by_cases hmissing : ',' ∉ t ∨ '.' ∉ t
  · have hmissing' : ',' ∉ t.map mirrorChar ∨ '.' ∉ t.map mirrorChar := by
      rw [mem_map_mirrorChar, mem_map_mirrorChar]
      exact hmissing.symm
    rw [plainAmount_of_not_mem hs hmissing, plainAmount_of_not_mem hs' hmissing', List.map_map]
    exact List.map_congr_left fun c _ => toPoint_mirrorChar c
  · obtain ⟨hcomma, hpoint⟩ : ',' ∈ t ∧ '.' ∈ t := by simpa using hmissing
    rcases h with h | h | hthird | hthird
    · exact absurd hcomma h
    · exact absurd hpoint h
    · exact plainAmount_mirror_of_point hs hcomma hpoint hthird
    -- The text is then the mirror of its mirror, which has the point in the third place.
    · have h := plainAmount_mirror_of_point hs' (mem_map_mirrorChar.mpr hpoint)
        (mem_map_mirrorChar.mpr hcomma) ((third_mirror t '.').mpr hthird)
      rw [map_mirrorChar_mirrorChar] at h
      exact h.symm

end Plain

/-- A text and its mirror have the same amount, or both have none. -/
theorem parseMonetary_mirror (v : String) :
    parseMonetary (mirrored v).toList = parseMonetary v.toList := by
  obtain ⟨s, hs⟩ : ∃ s, Text.dropBlanks v.toList = s := ⟨_, rfl⟩
  rw [mirrored, String.toList_ofList, parseMonetary, parseMonetary]
  by_cases hclear : ',' ∉ s ∨ '.' ∉ s ∨ s.reverse[2]? = some '.' ∨ s.reverse[2]? = some ','
  · rw [plainAmount_mirror hs hclear]
  · push Not at hclear
    obtain ⟨hcomma, hpoint, hthird, hthird'⟩ := hclear
    obtain ⟨hplain, hplain'⟩ := plainAmount_of_open hs hcomma hpoint hthird hthird'
    rw [hplain, hplain', Amount.read?_eq_none hcomma,
      Amount.read?_eq_none (mem_map_mirrorChar.mpr hpoint)]

/-! ## Expressions and amounts -/

/-- What is found and read is the mirror of what is found and read in the mirror: the mirrored
expression can be used too and finds the mirrored values at the same places, and a text and its
mirror have the same amount or both none. -/
theorem conventions_mirrored {e : String} {limit : Nat} {c : Compiled}
    (h : (Expression.simple e).compile limit = .ok c) :
    (∃ c', (Expression.simple (mirroredExpression e)).compile limit = .ok c' ∧
      ∀ text, c'.find (mirrored text) = (c.find text).map GroupMatch.mirrored) ∧
    ∀ v : String, parseMonetary (mirrored v).toList = parseMonetary v.toList :=
  ⟨find_mirroredExpression h, parseMonetary_mirror⟩

theorem conventions_mirrored_total :
    let c : Compiled := ⟨.simple "Total, <x:number>",
      "Total,\\s+(?P<x>[0-9 ,]+(?:\\.[0-9]*)?)", treeOf ("Total,".toList.map .char ++
        [.blank, .placeholder "x" (.number .dot)])⟩
    (Expression.simple "Total, <x:number>").compile 100000 = .ok c ∧
      (∃ c', (Expression.simple "Total. <x:number:comma>").compile 100000 = .ok c' ∧
        ∀ text, c'.find (mirrored text) = (c.find text).map GroupMatch.mirrored) ∧
      parseMonetary "1.234,56".toList = parseMonetary "1,234.56".toList := by
  intro c
  have hitems : readItems "Total, <x:number>" =
      .ok ("Total,".toList.map .char ++ [.blank, .placeholder "x" (.number .dot)]) := by rfl
  have hcompile : (Expression.simple "Total, <x:number>").compile 100000 = .ok c :=
    compile_of_readItems hitems (by cbv)
  have hmirror : mirroredExpression "Total, <x:number>" = "Total. <x:number:comma>" := by
    decide +kernel
  have h := conventions_mirrored hcompile
  exact ⟨hcompile, hmirror ▸ h.1, h.2 "1,234.56"⟩

end Dossier
