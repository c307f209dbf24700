import Dossier.Proofs.Regex.Lengths
import Dossier.Text.Blank
import Mathlib.Data.List.TakeWhile

/-!
# White space in other amounts

Between the words of a text there is white space, and how much of it there is depends on how the
text was set.

* `collapsed` : a text with one space for each run of white space;
* `Reflowed` : two texts that differ in the amounts of their white space only;
* `Reflowed.dropWhile`, `Reflowed.head` : what such texts start with;
* `mem_longestFirst` : the lengths of the runs at the start of a text.
-/

namespace Dossier

open Regex

/-! ## Runs of white space -/

/-- A text with one space for each run of white space. -/
def collapsed : List Char → List Char
  | [] => []
  | c :: rest =>
    if Text.isBlank c then
      if rest.head?.any Text.isBlank then collapsed rest else ' ' :: collapsed rest
    else c :: collapsed rest

theorem collapsed_blank {c : Char} (hc : Text.isBlank c = true) (text : List Char) :
    collapsed (c :: text) = ' ' :: collapsed (text.dropWhile Text.isBlank) := by
  induction text generalizing c with
  | nil => simp [collapsed, hc]
  | cons d text ih =>
    by_cases hd : Text.isBlank d = true
    · rw [List.dropWhile_cons_of_pos hd, ← ih hd]
      simp [collapsed, hc, hd]
    · simp [collapsed, hc, hd]

theorem collapsed_char {c : Char} (hc : Text.isBlank c = false) (text : List Char) :
    collapsed (c :: text) = c :: collapsed text := by
  simp [collapsed, hc]

/-- Texts that are equal up to replacing runs of white space by other ones. -/
inductive Reflowed : List Char → List Char → Prop
  | nil : Reflowed [] []
  | char {c : Char} {s t : List Char} (hc : Text.isBlank c = false) (h : Reflowed s t) :
    Reflowed (c :: s) (c :: t)
  | blanks {v w s t : List Char} (hv : v ≠ []) (hvs : ∀ c ∈ v, Text.isBlank c = true)
    (hw : w ≠ []) (hws : ∀ c ∈ w, Text.isBlank c = true) (h : Reflowed s t) :
    Reflowed (v ++ s) (w ++ t)

namespace Reflowed

variable {s t : List Char}

/-- One blank for another. -/
theorem blank {c d : Char} (hc : Text.isBlank c = true) (hd : Text.isBlank d = true)
    (h : Reflowed s t) : Reflowed (c :: s) (d :: t) :=
  blanks (v := [c]) (w := [d]) (by simp) (by simpa) (by simp) (by simpa) h

theorem refl (s : List Char) : Reflowed s s := by
  induction s with
  | nil => exact nil
  | cons c s ih =>
    cases hc : Text.isBlank c with
    | true => exact blank hc hc ih
    | false => exact char hc ih

theorem append_left (front : List Char) (h : Reflowed s t) :
    Reflowed (front ++ s) (front ++ t) := by
  induction front with
  | nil => exact h
  | cons c front ih =>
    cases hc : Text.isBlank c with
    | true => exact blank hc hc ih
    | false => exact char hc ih

/-- One text starts with white space if the other one does. -/
theorem head (h : Reflowed s t) : s.head?.any Text.isBlank = t.head?.any Text.isBlank := by
  cases h with
  | nil | char => rfl
  | @blanks v w s t hv hvs hw hws h =>
    obtain ⟨c, v, rfl⟩ := List.exists_cons_of_ne_nil hv
    obtain ⟨d, w, rfl⟩ := List.exists_cons_of_ne_nil hw
    simp [hvs c, hws d]

/-- What is left behind the white space that the texts start with. -/
theorem dropWhile (h : Reflowed s t) :
    Reflowed (s.dropWhile Text.isBlank) (t.dropWhile Text.isBlank) := by
  induction h with
  | nil => exact nil
  | char hc h _ =>
    rw [List.dropWhile_cons_of_neg (by simp [hc]), List.dropWhile_cons_of_neg (by simp [hc])]
    exact char hc h
  | blanks _ hvs _ hws _ ih =>
    rwa [List.dropWhile_append_of_pos hvs, List.dropWhile_append_of_pos hws]

/-- One more blank in front of white space. -/
theorem cons_left {c d : Char} (hc : Text.isBlank c = true) (hd : Text.isBlank d = true)
    (h : Reflowed (d :: s) t) : Reflowed (c :: d :: s) t := by
  generalize hs : d :: s = ds at h
  cases h with
  | nil => cases hs
  | char he =>
    obtain ⟨rfl, -⟩ := List.cons.inj hs
    simp [hd] at he
  | blanks hv hvs hw hws h =>
    exact blanks (List.cons_ne_nil c _) (List.forall_mem_cons.mpr ⟨hc, hvs⟩) hw hws h

end Reflowed

/-! ## Runs at the start -/

/-- A text starts with white space, or there is none to leave out. -/
theorem head_blank_cases (text : List Char) :
    (∃ c rest, text = c :: rest ∧ Text.isBlank c = true) ∨
      text.head?.any Text.isBlank = false ∧ text.dropWhile Text.isBlank = text := by
  cases text with
  | nil => exact .inr ⟨rfl, rfl⟩
  | cons c rest =>
    cases hc : Text.isBlank c with
    | true => exact .inl ⟨c, rest, rfl, hc⟩
    | false => exact .inr ⟨hc, List.dropWhile_cons_of_neg (by simp [hc])⟩

theorem runLength_le_length (p : Char → Bool) (rest : List Char) :
    runLength p rest ≤ rest.length := (List.takeWhile_prefix p).length_le

theorem mem_longestFirst {least n : Nat} {p : Char → Bool} {rest : List Char} :
    n ∈ longestFirst least p rest ↔ least ≤ n ∧ n ≤ runLength p rest := by
  rw [longestFirst, List.mem_reverse, List.mem_range'_1]
  omega

theorem runLength_append {p : Char → Bool} {front : List Char} (h : ∀ c ∈ front, p c = true)
    (rest : List Char) : runLength p (front ++ rest) = front.length + runLength p rest := by
  rw [runLength, List.takeWhile_append_of_pos h, List.length_append, runLength]

/-- So many characters have the property as are in the run. -/
theorem forall_mem_take {p : Char → Bool} {n : Nat} {rest : List Char}
    (h : n ≤ runLength p rest) : ∀ c ∈ rest.take n, p c = true := by
  intro c hc
  have hfront : rest.take n = (rest.takeWhile p).take n :=
    calc rest.take n = (rest.takeWhile p ++ rest.dropWhile p).take n := by
          rw [List.takeWhile_append_dropWhile]
      _ = (rest.takeWhile p).take n := List.take_append_of_le_length h
  rw [hfront] at hc
  exact List.mem_takeWhile_imp (List.mem_of_mem_take hc)

/-- What is left behind so much of a run. -/
theorem drop_of_le_runLength {p : Char → Bool} {n : Nat} {rest : List Char}
    (h : n ≤ runLength p rest) :
    rest.drop n = (rest.takeWhile p).drop n ++ rest.dropWhile p :=
  calc rest.drop n = (rest.takeWhile p ++ rest.dropWhile p).drop n := by
        rw [List.takeWhile_append_dropWhile]
    _ = (rest.takeWhile p).drop n ++ rest.dropWhile p := List.drop_append_of_le_length h

/-- The longest length decides if shorter ones do not succeed where it fails. -/
theorem findSome?_longestFirst {α : Type} {p : Char → Bool} {rest : List Char}
    {f : Nat → Option α} (hpos : 1 ≤ runLength p rest)
    (h : f (runLength p rest) = none → ∀ n ≤ runLength p rest, f n = none) :
    (longestFirst 1 p rest).findSome? f = f (runLength p rest) := by
  cases hf : f (runLength p rest) with
  | none => exact List.findSome?_eq_none_iff.mpr fun n hn => h hf n (mem_longestFirst.mp hn).2
  | some a =>
    obtain ⟨k, hk⟩ := Nat.exists_eq_add_of_le' hpos
    have hfirst : longestFirst 1 p rest = runLength p rest :: (List.range' 1 k).reverse := by
      rw [longestFirst, hk, Nat.add_sub_cancel, List.range'_concat]
      simp [Nat.add_comm]
    rw [hfirst, List.findSome?_cons, hf]

/-- A run of other characters at the start of a text is the same in a reflowed text. -/
theorem Reflowed.split_run {p : Char → Bool} (hp : ∀ c, Text.isBlank c = true → p c = false)
    {s t : List Char} (h : Reflowed s t) :
    runLength p s = runLength p t ∧
      ∀ n ≤ runLength p s, s.take n = t.take n ∧ Reflowed (s.drop n) (t.drop n) := by
  induction h with
  | nil => exact ⟨rfl, fun n _ => by simpa using Reflowed.nil⟩
  | @char c s t hc h ih =>
    obtain ⟨hlength, hsplit⟩ := ih
    cases hpc : p c with
    | false =>
      rw [runLength_cons_neg hpc, runLength_cons_neg hpc]
      refine ⟨rfl, fun n hn => ?_⟩
      obtain rfl := Nat.le_zero.mp hn
      exact ⟨rfl, h.char hc⟩
    | true =>
      rw [runLength_cons_pos hpc, runLength_cons_pos hpc]
      refine ⟨by rw [hlength], fun n hn => ?_⟩
      cases n with
      | zero => exact ⟨rfl, h.char hc⟩
      | succ n =>
        obtain ⟨htaken, hrest⟩ := hsplit n (by omega)
        exact ⟨by simp [htaken], hrest⟩
  | @blanks v w s t hv hvs hw hws h _ =>
    have hzero : ∀ v s, v ≠ [] → (∀ c ∈ v, Text.isBlank c = true) → runLength p (v ++ s) = 0 := by
      intro v s hv hvs
      obtain ⟨c, v, rfl⟩ := List.exists_cons_of_ne_nil hv
      exact runLength_cons_neg (hp c (hvs c List.mem_cons_self))
    rw [hzero v s hv hvs, hzero w t hw hws]
    refine ⟨rfl, fun n hn => ?_⟩
    obtain rfl := Nat.le_zero.mp hn
    exact ⟨rfl, h.blanks hv hvs hw hws⟩

end Dossier
