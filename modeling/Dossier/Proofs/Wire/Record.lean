import Dossier.Proofs.Json.Values
import Dossier.Wire.Record

/-!
# Decoding what was encoded

What is decoded from a JSON value is a value of a type that can be written again: the JSON value
it is written as is decoded to it, has no number out of range, and is hardly nested deeper than
the one it came from.

* `Saved` : a value of a type that can be written again;
* `Saves` : all that is decoded can be written again;
* `Record.field_saved`, `Record.fieldOr_saved`, `Json.optional_saved` : the fields of a record;
* `Json.asOption_saves`, `Json.asList_saves` : values that may be missing, and lists.
-/

namespace Dossier

variable {α : Type} {decode : Json → Decoded α} {encode : α → Json}
  {more bound : Nat}

/-- A step, such as one of decoding, that is followed by others gives a value. -/
theorem Decoded.bind_eq_ok {ε β : Type} {x : Except ε α} {f : α → Except ε β} {b : β} :
    x >>= f = .ok b ↔ ∃ a, x = .ok a ∧ f a = .ok b := by
  cases x with
  | error e => simp [bind, Except.bind]
  | ok a => simp [bind, Except.bind]

theorem Decoded.mapError_eq_ok {ε δ : Type} {x : Except ε α} {f : ε → δ} {a : α} :
    x.mapError f = .ok a ↔ x = .ok a := by
  cases x with
  | error e => simp [Except.mapError]
  | ok a => simp [Except.mapError]

theorem Decoded.map_eq_ok {β : Type} {x : Decoded α} {f : α → β} {b : β} :
    x.map f = .ok b ↔ ∃ a, x = .ok a ∧ f a = b := by
  cases x with
  | error e => simp [Except.map]
  | ok a => simp [Except.map]

/-- What is decoded from several values is decoded from them one by one. -/
theorem Decoded.mem_of_mapM {β γ : Type} {f : β → Decoded γ} {bs : List β} {cs : List γ}
    (h : bs.mapM f = .ok cs) : ∀ c ∈ cs, ∃ b ∈ bs, f b = .ok c := by
  induction bs generalizing cs with
  | nil =>
    cases h
    simp
  | cons b bs ih =>
    rw [List.mapM_cons] at h
    obtain ⟨c, hc, h⟩ := Decoded.bind_eq_ok.mp h
    obtain ⟨others, hothers, h⟩ := Decoded.bind_eq_ok.mp h
    cases h
    intro d hd
    rcases List.mem_cons.mp hd with rfl | hd
    · exact ⟨b, List.mem_cons_self, hc⟩
    · obtain ⟨e, he, hd⟩ := ih hothers d hd
      exact ⟨e, List.mem_cons_of_mem b he, hd⟩

/-- What is decoded one by one is decoded from all values that were written. -/
theorem Decoded.mapM_map {β : Type} {f : β → Decoded α} {write : α → β} {as : List α}
    (h : ∀ a ∈ as, f (write a) = .ok a) : (as.map write).mapM f = .ok as := by
  induction as with
  | nil => rfl
  | cons a as ih =>
    obtain ⟨ha, has⟩ := List.forall_mem_cons.mp h
    rw [List.map_cons, List.mapM_cons, ha, ih has]
    rfl

/-! ## Values within bounds -/

namespace Json

theorem fits_ofList {as : List α} (h : ∀ a ∈ as, (encode a).Fits (bound + 1)) :
    (ofList encode as).Fits (bound + 2) := by
  refine fits_arr.mpr fun j hj => ?_
  obtain ⟨a, ha, rfl⟩ := List.mem_map.mp hj
  exact h a ha

end Json

/-- A value of a type that is written within bounds, and so that it is decoded again. -/
structure Saved (decode : Json → Decoded α) (encode : α → Json) (bound : Nat) (a : α) :
    Prop where
  again : decode (encode a) = .ok a
  fits : (encode a).Fits bound

theorem Saved.mono {a : α} {b : Nat} (h : Saved decode encode bound a) (hb : bound ≤ b) :
    Saved decode encode b a := ⟨h.again, h.fits.mono hb⟩

/-- All that is decoded from values without numbers out of range can be written again. Arrays and
objects are nested by so many levels deeper at most. -/
def Saves (decode : Json → Decoded α) (encode : α → Json) (more : Nat) : Prop :=
  ∀ j a bound, j.Fits bound → decode j = .ok a → Saved decode encode (bound + more) a

theorem Saves.mono {m : Nat} (h : Saves decode encode more) (hm : more ≤ m) :
    Saves decode encode m :=
  fun j a b hj ha => (h j a b hj ha).mono (Nat.add_le_add_left hm b)

/-! ## Fields of records -/

namespace Record

/-- The values of the fields. -/
def values : Record → List Json
  | members ms => ms.map Prod.snd
  | elements es => es

variable {r : Record} {place : Nat} {name : String} {a : α}

theorem of_ofObject {j : Json} (h : ofObject j = .ok r) : Record.of j = .ok r := by
  cases j with
  | obj ms => exact h
  | null | bool | int | float | str | arr => cases h

/-- The fields of a record are nested less deep than the record. -/
theorem fits_of {j : Json} (hj : j.Fits bound) (h : Record.of j = .ok r) :
    ∃ b, bound = b + 2 ∧ ∀ v ∈ r.values, v.Fits (b + 1) := by
  have hdepth := hj.depth
  cases j with
  | arr es =>
    obtain ⟨b, rfl⟩ : ∃ b, bound = b + 2 := ⟨bound - 2, by rw [Json.depth] at hdepth; omega⟩
    cases h
    exact ⟨b, rfl, Json.fits_arr.mp hj⟩
  | obj ms =>
    obtain ⟨b, rfl⟩ : ∃ b, bound = b + 2 := ⟨bound - 2, by rw [Json.depth] at hdepth; omega⟩
    cases h
    exact ⟨b, rfl, List.forall_mem_map.mpr (Json.fits_obj.mp hj)⟩
  | null | bool | int | float | str => cases h

theorem mem_values_of_get {v : Json} (h : r.get place name = .ok (some v)) : v ∈ r.values := by
  cases r with
  | members ms =>
    simp only [get] at h
    split at h
    · cases h
    · rename_i m hfilter
      cases h
      have hm : m ∈ ms.filter fun m => m.1 == name := hfilter ▸ List.mem_singleton_self m
      exact List.mem_map_of_mem (List.mem_of_mem_filter hm)
    · cases h
  | elements es => exact List.mem_of_getElem? (Except.ok.inj h)

theorem field_ok (h : r.field place name decode = .ok a) : ∃ v ∈ r.values, decode v = .ok a := by
  obtain ⟨v?, hget, h⟩ := Decoded.bind_eq_ok.mp h
  cases v? with
  | none => cases r <;> cases h
  | some v => exact ⟨v, mem_values_of_get hget, h⟩

theorem fieldOr_ok {default : α} (h : r.fieldOr place name default decode = .ok a) :
    a = default ∨ ∃ v ∈ r.values, decode v = .ok a := by
  obtain ⟨v?, hget, h⟩ := Decoded.bind_eq_ok.mp h
  cases v? with
  | none =>
    cases h
    exact .inl rfl
  | some v => exact .inr ⟨v, mem_values_of_get hget, h⟩

theorem optional_ok {a? : Option α} (h : r.optional place name decode = .ok a?) :
    a? = none ∨ ∃ v ∈ r.values, v.asOption decode = .ok a? := by
  obtain ⟨v?, hget, h⟩ := Decoded.bind_eq_ok.mp h
  cases v? with
  | none =>
    cases r <;> cases h
    exact .inl rfl
  | some v => exact .inr ⟨v, mem_values_of_get hget, h⟩

/-- A field that has to be there is written nested less deep than the whole record. -/
theorem field_saved (hr : ∀ v ∈ r.values, v.Fits bound)
    (hsaves : Saves decode encode more) (h : r.field place name decode = .ok a) :
    Saved decode encode (bound + more) a := by
  obtain ⟨v, hv, h⟩ := field_ok h
  exact hsaves v a bound (hr v hv) h

/-- So is a field with a default that can be written itself. -/
theorem fieldOr_saved {default : α} (hr : ∀ v ∈ r.values, v.Fits bound)
    (hsaves : Saves decode encode more)
    (hdefault : Saved decode encode (bound + more) default)
    (h : r.fieldOr place name default decode = .ok a) :
    Saved decode encode (bound + more) a := by
  rcases fieldOr_ok h with rfl | ⟨v, hv, h⟩
  · exact hdefault
  · exact hsaves v a bound (hr v hv) h

end Record

/-! ## Simple types -/

namespace Json

theorem asString_saves : Saves asString str 0 := by
  intro j s bound hj h
  cases j with
  | str s =>
    cases h
    exact ⟨rfl, hj⟩
  | null | bool | int | float | arr | obj => cases h

theorem asIntIn_ok {lo hi n : Int} {j : Json} (h : j.asIntIn lo hi = .ok n) :
    j = int n ∧ lo ≤ n ∧ n ≤ hi := by
  cases j with
  | int m =>
    simp only [asIntIn] at h
    split_ifs at h with hbounds
    cases h
    exact ⟨rfl, hbounds⟩
  | null | bool | float | str | arr | obj => cases h

theorem asIntIn_saves (lo hi : Int) : Saves (asIntIn lo hi) int 0 := by
  intro j n bound hj h
  obtain ⟨rfl, hbounds⟩ := asIntIn_ok h
  exact ⟨if_pos hbounds, hj⟩

theorem asNat_ok {n : Nat} {j : Json} (h : j.asNat = .ok n) : j = ofNat n ∧ n < twoTo 64 := by
  obtain ⟨m, hm, rfl⟩ := Decoded.map_eq_ok.mp h
  obtain ⟨rfl, hbounds⟩ := asIntIn_ok hm
  refine ⟨?_, by omega⟩
  rw [ofNat, Int.toNat_of_nonneg hbounds.1]

theorem asNat_ofNat {n : Nat} (h : n < twoTo 64) : (ofNat n).asNat = .ok n := by
  refine Decoded.map_eq_ok.mpr ⟨n, ?_, Int.toNat_natCast n⟩
  rw [ofNat, asIntIn, if_pos (by omega)]

theorem asNat_saves : Saves asNat ofNat 0 := by
  intro j n bound hj h
  obtain ⟨rfl, hn⟩ := asNat_ok h
  exact ⟨asNat_ofNat hn, hj⟩

/-- A name is decoded from a string, or from an object with the name as its only key. -/
theorem asName_eq_ok {names : List (String × α)} {j : Json} {a : α} :
    asName names j = .ok a ↔
      ∃ s, names.lookup s = some a ∧ (j = str s ∨ j = obj [(s, null)]) := by
  constructor
  · intro h
    unfold asName at h
    split at h
    · split at h
      · cases h
        exact ⟨_, ‹_›, .inl rfl⟩
      · cases h
    · split at h
      · cases h
        exact ⟨_, ‹_›, .inr rfl⟩
      · cases h
    · cases h
  · rintro ⟨s, hlookup, rfl | rfl⟩ <;> simp only [asName, hlookup]

theorem asName_ok {names : List (String × α)} {j : Json} {a : α} (h : asName names j = .ok a) :
    ∃ s, (s, a) ∈ names := by
  obtain ⟨s, hlookup, -⟩ := asName_eq_ok.mp h
  obtain ⟨before, after, rfl, -⟩ := List.lookup_eq_some_iff.mp hlookup
  exact ⟨s, by simp⟩

/-- Names are written as strings. -/
theorem asName_saves {names : List (String × α)}
    (hnames : ∀ m ∈ names, encode m.2 = str m.1 ∧ names.lookup m.1 = some m.2) :
    Saves (asName names) encode 0 := by
  intro j a bound hj h
  obtain ⟨s, hs⟩ := asName_ok h
  obtain ⟨hencode, hlookup⟩ := hnames (s, a) hs
  have hpos := Nat.lt_of_le_of_lt (Nat.zero_le _) hj.depth
  simp only at hencode hlookup
  refine ⟨?_, ?_⟩
  · rw [hencode]
    simp only [asName, hlookup]
  · rw [hencode]
    exact ⟨trivial, hpos⟩

/-- So are values with a text of their own. -/
theorem asText_saves {read? : List Char → Option α} {text : α → String}
    (htext : ∀ s a, read? s = some a → read? (text a).toList = some a) :
    Saves (asText read?) (fun a => str (text a)) 0 := by
  intro j a bound hj h
  have hpos := Nat.lt_of_le_of_lt (Nat.zero_le _) hj.depth
  cases j with
  | str s =>
    simp only [asText] at h
    split at h
    · rename_i hread
      cases h
      exact ⟨by simp only [asText, htext _ _ hread], trivial, hpos⟩
    · cases h
  | null | bool | int | float | arr | obj => cases h

/-! ## Missing values and lists -/

theorem asOption_of_ne {j : Json} (hnull : j ≠ null) :
    j.asOption decode = (decode j).map some := by
  cases j with
  | null => exact absurd rfl hnull
  | bool | int | float | str | arr | obj => rfl

/-- What is decoded from a value that may be missing is missing or decoded from that value. -/
theorem asOption_ok {j : Json} {a? : Option α} (h : j.asOption decode = .ok a?) :
    a? = none ∨ ∃ a, a? = some a ∧ decode j = .ok a := by
  unfold asOption at h
  split at h
  · cases h
    exact .inl rfl
  · cases ha : decode j with
    | error e =>
      rw [ha] at h
      cases h
    | ok a =>
      rw [ha] at h
      cases h
      exact .inr ⟨a, rfl, rfl⟩

/-- A missing value is written as null. -/
theorem asOption_saves (hsaves : Saves decode encode more) (hnull : ∀ a, encode a ≠ null) :
    Saves (asOption decode) (ofOption encode) more := by
  intro j a? bound hj h
  rcases asOption_ok h with rfl | ⟨a, rfl, ha⟩
  · exact ⟨rfl, trivial, Nat.lt_of_lt_of_le (Nat.lt_of_le_of_lt (Nat.zero_le _) hj.depth)
      (Nat.le_add_right _ _)⟩
  · have hsaved := hsaves j a bound hj ha
    exact ⟨by rw [ofOption, asOption_of_ne (hnull a), hsaved.again]; rfl, hsaved.fits⟩

/-- A field that may be null or left out is written as null then. -/
theorem optional_saved {r : Record} {place : Nat} {name : String} {a? : Option α}
    (hr : ∀ v ∈ r.values, v.Fits (bound + 1)) (hsaves : Saves decode encode more)
    (hnull : ∀ a, encode a ≠ null) (h : r.optional place name decode = .ok a?) :
    Saved (asOption decode) (ofOption encode) (bound + 1 + more) a? := by
  rcases Record.optional_ok h with rfl | ⟨v, hv, h⟩
  · exact ⟨rfl, trivial, by rw [Nat.add_right_comm]; exact Nat.succ_pos _⟩
  · exact asOption_saves hsaves hnull v a? (bound + 1) (hr v hv) h

/-- The elements of a list are decoded one by one. -/
theorem asList_ok {j : Json} {as : List α} (h : j.asList decode = .ok as) :
    ∃ es, j = arr es ∧ ∀ a ∈ as, ∃ v ∈ es, decode v = .ok a := by
  cases j with
  | arr es => exact ⟨es, rfl, Decoded.mem_of_mapM h⟩
  | null | bool | int | float | str | obj => cases h

theorem asList_ofList {as : List α} (h : ∀ a ∈ as, decode (encode a) = .ok a) :
    (ofList encode as).asList decode = .ok as := Decoded.mapM_map h

theorem saved_nil : Saved (asList decode) (ofList encode) (bound + 2) [] :=
  ⟨rfl, fits_ofList (by simp)⟩

theorem asList_saves (hsaves : Saves decode encode more) :
    Saves (asList decode) (ofList encode) more := by
  intro j as bound hj h
  obtain ⟨es, rfl, hes⟩ := asList_ok h
  obtain ⟨b, rfl, hr⟩ := Record.fits_of (r := .elements es) hj rfl
  have hall : ∀ a ∈ as, Saved decode encode (b + 1 + more) a := fun a ha => by
    obtain ⟨v, hv, ha⟩ := hes a ha
    exact hsaves v a (b + 1) (hr v hv) ha
  refine ⟨asList_ofList fun a ha => (hall a ha).again, ?_⟩
  have hbound : b + 2 + more = (b + more) + 2 := by omega
  rw [hbound]
  exact fits_ofList fun a ha => (hall a ha).fits.mono (by omega)

end Json

end Dossier
