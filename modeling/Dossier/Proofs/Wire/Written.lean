import Dossier.Proofs.Json.Pretty
import Dossier.Proofs.Wire.Record
import Dossier.Wire.Load

/-!
# Values that survive their texts

A value of a type whose values can be written again, and that was read from a text, is read from its
own text unless that text is nested too deep.

* `Survives` : a value that is read from both of its texts;
* `Saves.survives` : what was read from a text survives.
-/

namespace Dossier

/-! ## Numbers and depth of what is written -/

theorem Json.floats_ofList {α : Type} {encode : α → Json} {as : List α} :
    (ofList encode as).floats = as.flatMap fun a => (encode a).floats := by
  rw [ofList, floats, floatsOfAll_eq, List.flatMap_map]

theorem Json.floats_ofOption {α : Type} {encode : α → Json} (h : ∀ a, (encode a).floats = [])
    (a? : Option α) : (ofOption encode a?).floats = [] := by
  cases a? with
  | none => rfl
  | some a => exact h a

/-- An element of a list is nested less deep than the list. -/
theorem Json.depth_ofList_lt {α : Type} {encode : α → Json} {as : List α} {bound : Nat}
    (h : ∀ a ∈ as, (encode a).depth < bound + 1) : (ofList encode as).depth < bound + 2 := by
  refine depth_arr_lt.mpr fun j hj => ?_
  obtain ⟨a, ha, rfl⟩ := List.mem_map.mp hj
  exact h a ha

/-! ## Reading what was written -/

theorem decodeRead_ok {α : Type} {decode : Json → Decoded α} {j? : Option Json} {a : α}
    (h : decodeRead decode j? = .ok a) : ∃ j, j? = some j ∧ decode j = .ok a := by
  cases j? with
  | none => cases h
  | some j => exact ⟨j, rfl, Decoded.mapError_eq_ok.mp h⟩

theorem readAs_ok {α : Type} {decode : Json → Decoded α} {t : String} {a : α}
    (h : readAs decode t = .ok a) : ∃ j, Json.read? t = some j ∧ decode j = .ok a :=
  decodeRead_ok h

/-- A value is read from its compact text and from its text with lines, and the texts of what is
read are the same again. -/
structure Survives {α : Type} (read : String → Except LoadFault α) (encode : α → Json) (a : α) :
    Prop where
  compact : read (encode a).compact = .ok a
  compactAgain : (read (encode a).compact).map (fun b => (encode b).compact) =
    .ok (encode a).compact
  pretty : read (encode a).pretty = .ok a
  prettyAgain : (read (encode a).pretty).map (fun b => (encode b).pretty) =
    .ok (encode a).pretty

section Texts

variable {α : Type} {decode : Json → Decoded α} {encode : α → Json} {a : α} {more : Nat}

theorem decodeRead_some {j? : Option Json} {j : Json} (hread : j? = some j)
    (hdecode : decode j = .ok a) : decodeRead decode j? = .ok a := by
  simp only [hread, decodeRead, hdecode]
  rfl

theorem readAs_of_read? {t : String} {j : Json} (hread : Json.read? t = some j)
    (hdecode : decode j = .ok a) : readAs decode t = .ok a :=
  decodeRead_some hread hdecode

/-- What is read from the compact text of a value is what is decoded from the value. -/
theorem readAs_compact {j : Json} (hwithin : j.Within Json.ReadsBack)
    (hdepth : j.depth < Json.nestingLimit) :
    readAs decode j.compact = (decode j).mapError .mistyped := by
  rw [readAs, Json.read?_compact hwithin, if_pos hdepth, decodeRead]

variable {readKey : List Char → Option (List Char × List Char)} (hkeys : Json.ReadsKeys readKey)

include hkeys

theorem survives_of_decode (hdecode : decode (encode a) = .ok a)
    (hwithin : (encode a).Within Json.ReadsBack) (hdepth : (encode a).depth < Json.nestingLimit) :
    Survives (fun t => decodeRead decode (Json.readWith? readKey t)) encode a := by
  have hcompact : decodeRead decode (Json.readWith? readKey (encode a).compact) = .ok a :=
    decodeRead_some ((Json.readWith?_compact hwithin hkeys).trans (if_pos hdepth)) hdecode
  have hpretty : decodeRead decode (Json.readWith? readKey (encode a).pretty) = .ok a :=
    decodeRead_some ((Json.readWith?_pretty hwithin hkeys).trans (if_pos hdepth)) hdecode
  exact ⟨hcompact, by rw [hcompact]; rfl, hpretty, by rw [hpretty]; rfl⟩

/-- A value that was read from a text survives if it is not written nested deeper than a text can
be. -/
theorem Saves.survives (hsaves : Saves decode encode more) {t : String}
    (h : decodeRead decode (Json.readWith? readKey t) = .ok a)
    (hdepth : (encode a).depth < Json.nestingLimit + more → (encode a).depth < Json.nestingLimit)
    (hfloats : ∀ x ∈ (encode a).floats, x.isFinite = true → Json.ReadsBack x) :
    Survives (fun t => decodeRead decode (Json.readWith? readKey t)) encode a := by
  obtain ⟨j, hread, hdecode⟩ := decodeRead_ok h
  have hsaved := hsaves j a _ (Json.readWith?_fits hread) hdecode
  exact survives_of_decode hkeys hsaved.again (hsaved.fits.within.imp hfloats)
    (hdepth hsaved.fits.depth)

end Texts

/-! ## Numbers of usual pages and settings -/

theorem readsBack_zero : Json.ReadsBack 0 := by
  have htext : Json.floatText 0 = ['0', '.', '0'] := by decide +kernel
  rw [Json.ReadsBack, htext]
  rfl

theorem readsBack_quarter : Json.ReadsBack 0.25 := by
  have htext : Json.floatText 0.25 = ['0', '.', '2', '5'] := by decide +kernel
  rw [Json.ReadsBack, htext]
  rfl

theorem readsBack_half : Json.ReadsBack 0.5 := by
  have htext : Json.floatText 0.5 = ['0', '.', '5'] := by decide +kernel
  rw [Json.ReadsBack, htext]
  rfl

theorem readsBack_width : Json.ReadsBack 595.28 := by
  have htext : Json.floatText 595.28 = ['5', '9', '5', '.', '2', '8'] := by decide +kernel
  rw [Json.ReadsBack, htext]
  rfl

theorem readsBack_height : Json.ReadsBack 842 := by
  have htext : Json.floatText 842 = ['8', '4', '2', '.', '0'] := by decide +kernel
  rw [Json.ReadsBack, htext]
  rfl

end Dossier
