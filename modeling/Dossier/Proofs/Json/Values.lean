import Dossier.Proofs.Json.Compact
import Dossier.Proofs.Number.Finite

/-!
# Numbers that are read

The integers that are read from JSON texts have 64 bits, and the floating-point numbers are finite.
Arrays and objects are nested less deep than the limit.

* `scaled?_isFinite` : a significand with a power of ten;
* `Fits` : no number out of range, and nested less deep than a bound;
* `readNumber_fits` : a number;
* `readWith?_fits` : the value of a text.
-/

namespace Dossier.Json

/-- The property that a floating-point number is finite. -/
def Finite (x : Float) : Prop := x.isFinite = true

/-! ## Powers of ten -/

section Powers

open Float.Model Float.Model.UnpackedFloat

/-- Whether a number is finite and two at least. -/
def isLarge : UnpackedFloat → Bool
  | .finite _ m e _ => decide (2 ≤ totalExponent m e)
  | _ => false

theorem isLarge_of_exponentGe {f : UnpackedFloat} (h : ExponentGe (-51) f) : isLarge f = true := by
  cases h with
  | finite s hm hlog he =>
    refine decide_eq_true ?_
    rw [totalExponent, hlog]
    omega

/-- Powers of ten that are not in the table of exact ones are products. -/
theorem powerOfTen_toModel {k : Nat} (hlow : 22 < k) (hhigh : k ≤ 308) :
    (powerOfTen k).toModel = Float.Model.pack (roundWithAccuracy Format.binary64 .positive
      (2 ^ 53 * 10 ^ k) (-53) .exact) := by
  unfold powerOfTen Float.ofScientific
  rw [dif_neg (fun h => Nat.not_lt.mpr h.2 hlow)]
  show Float.Model.pack (UnpackedFloat.ofScientific Format.binary64 1 k) = _
  have hbits : (2 : Int) ^ Format.binary64.exponentBits = 2048 := rfl
  unfold UnpackedFloat.ofScientific
  rw [dif_neg (by decide), if_neg (by omega), if_neg (by omega), if_pos (by omega)]
  rfl

theorem isLarge_powerOfTen {k : Nat} (hpos : 0 < k) (hk : k ≤ 308) :
    isLarge (powerOfTen k).toModel.unpack = true := by
  have htable : ∀ k ∈ 308 :: List.range 23, 0 < k →
      isLarge (powerOfTen k).toModel.unpack = true := by decide +kernel
  by_cases hexact : k ≤ 22 ∨ k = 308
  · exact htable k (by simp; omega) hpos
  have hlow : 2 ^ 54 ≤ 2 ^ 53 * 10 ^ k :=
    Nat.mul_le_mul_left (2 ^ 53) (Nat.le_trans (by decide) (Nat.le_self_pow (Nat.ne_of_gt hpos) 10))
  have hhigh : 2 ^ 53 * 10 ^ k < 2 ^ 1073 := by
    have hbound : ∀ k ∈ List.range 308, 2 ^ 53 * 10 ^ k < 2 ^ 1073 := by decide +kernel
    exact hbound k (List.mem_range.mpr (by omega))
  have hlog : 54 ≤ (2 ^ 53 * 10 ^ k).log2 :=
    (Nat.le_log2 (Nat.ne_of_gt (Nat.lt_of_lt_of_le (by decide) hlow))).mpr hlow
  rw [powerOfTen_toModel (by omega) hk]
  exact isLarge_of_exponentGe (unpack_pack_exponentGe
    (roundWithAccuracy_exponentGe (by omega) (by rw [totalExponent]; omega) (by decide))
    (roundWithAccuracy_exponentLe hhigh (by decide) (by decide) (by decide)) (by decide))

end Powers
theorem exists_of_isLarge {f : Float.Model.UnpackedFloat} (h : isLarge f = true) :
    ∃ s m e hm, f = .finite s m e hm ∧ 2 ≤ Float.Model.totalExponent m e := by
  cases f with
  | finite s m e hm => exact ⟨s, m, e, hm, rfl, of_decide_eq_true h⟩
  | infinity | notANumber | zero => cases h

theorem isFinite_powerOfTen {k : Nat} (hk : k ≤ 308) : (powerOfTen k).isFinite = true := by
  cases k with
  | zero => decide
  | succ k =>
    obtain ⟨s, m, e, hm, hpower, -⟩ := exists_of_isLarge (isLarge_powerOfTen (Nat.succ_pos k) hk)
    show (powerOfTen (k + 1)).toModel.unpack.isFinite = true
    rw [hpower]
    rfl

/-! ## Values within bounds -/

/-- No number is out of range, and arrays and objects are nested less deep than a bound. -/
structure Fits (bound : Nat) (j : Json) : Prop where
  within : j.Within Finite
  depth : j.depth < bound

section Fits

variable {bound : Nat}

theorem Fits.mono {j : Json} {b : Nat} (h : j.Fits bound) (hb : bound ≤ b) : j.Fits b :=
  ⟨h.within, Nat.lt_of_lt_of_le h.depth hb⟩

theorem fits_null : null.Fits (bound + 1) := ⟨trivial, Nat.succ_pos _⟩

theorem fits_bool (b : Bool) : (bool b).Fits (bound + 1) := ⟨trivial, Nat.succ_pos _⟩

theorem fits_int {n : Int} (hlow : -(twoTo 63 : Int) ≤ n) (hhigh : n < twoTo 64) :
    (int n).Fits (bound + 1) := ⟨⟨hlow, hhigh⟩, Nat.succ_pos _⟩

theorem fits_float {x : Float} (h : x.isFinite = true) : (float x).Fits (bound + 1) :=
  ⟨h, Nat.succ_pos _⟩

theorem fits_str (s : String) : (str s).Fits (bound + 1) := ⟨trivial, Nat.succ_pos _⟩

theorem depthOfAll_lt {elements : List Json} :
    depthOfAll elements < bound + 1 ↔ ∀ j ∈ elements, j.depth < bound + 1 := by
  induction elements with
  | nil => simp [depthOfAll]
  | cons j rest ih => rw [depthOfAll, Nat.max_lt, ih, List.forall_mem_cons]

theorem depthOfMembers_lt {members : List (String × Json)} :
    depthOfMembers members < bound + 1 ↔ ∀ m ∈ members, m.2.depth < bound + 1 := by
  induction members with
  | nil => simp [depthOfMembers]
  | cons m rest ih => rw [depthOfMembers, Nat.max_lt, ih, List.forall_mem_cons]

theorem depth_arr_lt {elements : List Json} :
    (arr elements).depth < bound + 2 ↔ ∀ j ∈ elements, j.depth < bound + 1 :=
  Nat.succ_lt_succ_iff.trans depthOfAll_lt

theorem depth_obj_lt {members : List (String × Json)} :
    (obj members).depth < bound + 2 ↔ ∀ m ∈ members, m.2.depth < bound + 1 :=
  Nat.succ_lt_succ_iff.trans depthOfMembers_lt

theorem fits_arr {elements : List Json} :
    (arr elements).Fits (bound + 2) ↔ ∀ j ∈ elements, j.Fits (bound + 1) := by
  constructor
  · intro h j hj
    exact ⟨withinAll_iff.mp h.within j hj, depth_arr_lt.mp h.depth j hj⟩
  · intro h
    exact ⟨withinAll_iff.mpr fun j hj => (h j hj).within,
      depth_arr_lt.mpr fun j hj => (h j hj).depth⟩

theorem fits_obj {members : List (String × Json)} :
    (obj members).Fits (bound + 2) ↔ ∀ m ∈ members, m.2.Fits (bound + 1) := by
  constructor
  · intro h m hm
    exact ⟨withinMembers_iff.mp h.within m hm, depth_obj_lt.mp h.depth m hm⟩
  · intro h
    exact ⟨withinMembers_iff.mpr fun m hm => (h m hm).within,
      depth_obj_lt.mpr fun m hm => (h m hm).depth⟩

end Fits

/-! ## Numbers -/

/-- Divisions by powers of ten stay finite. -/
theorem divideLarge_isFinite {fuel k : Nat} {x : Float} (hx : x.isFinite = true) (hk : 0 < k) :
    (divideLarge fuel x k).isFinite = true := by
  induction fuel generalizing x k with
  | zero => exact hx
  | succ fuel ih =>
    have hdiv {k : Nat} (hpos : 0 < k) (hk : k ≤ 308) : (x / powerOfTen k).isFinite = true := by
      obtain ⟨s, m, e, hm, hpower, hlarge⟩ := exists_of_isLarge (isLarge_powerOfTen hpos hk)
      exact isFinite_div hx hpower hlarge
    rw [divideLarge]
    split_ifs with hsmall
    · exact hdiv hk hsmall
    · exact hx
    · exact ih (hdiv (by decide) (Nat.le_refl _)) (by omega)

theorem scaled?_isFinite {negative : Bool} {significand : Nat} {exponent : Int} {x : Float}
    (hfits : significand ≤ maxSignificand) (h : scaled? negative significand exponent = some x) :
    x.isFinite = true := by
  have hmax : maxSignificand = 2 ^ 64 - 1 := rfl
  have hwhole : (Float.ofNat significand).isFinite = true := isFinite_ofNat (by omega)
  obtain ⟨y, hy, rfl⟩ := Option.map_eq_some_iff.mp h
  have hfinite : y.isFinite = true := by
    split at hy
    · cases hy
      exact divideLarge_isFinite hwhole (by omega)
    · split at hy
      · simp only at hy
        split at hy
        · cases hy
        · rename_i hinf
          cases hy
          exact isFinite_mul hwhole (isFinite_powerOfTen (by omega)) (eq_false_of_ne_true hinf)
      · split at hy
        · cases hy
          exact hwhole
        · cases hy
  cases negative with
  | false => exact hfinite
  | true => exact isFinite_neg hfinite

theorem fillSignificand_le {significand : Nat} {digits : List Char}
    (h : significand ≤ maxSignificand) :
    (fillSignificand significand digits).1 ≤ maxSignificand := by
  induction digits generalizing significand with
  | nil => exact h
  | cons c digits ih =>
    rw [fillSignificand]
    split_ifs with hfits
    · exact ih hfits
    · exact h

section Numbers

variable {negative : Bool} {significand : Nat} {exponent : Int} {s after : List Char} {j : Json}
  {bound : Nat} (hfits : significand ≤ maxSignificand)

include hfits

theorem readExponent_fits (h : readExponent negative significand exponent s = some (j, after)) :
    j.Fits (bound + 1) := by
  obtain ⟨⟨digits, r⟩, hspan⟩ : ∃ p, spanDigits (exponentSign s).2 = p := ⟨_, rfl⟩
  rw [readExponent_eq, hspan] at h
  simp only at h
  split_ifs at h
  obtain ⟨x, hx, heq⟩ := Option.map_eq_some_iff.mp h
  obtain ⟨rfl, rfl⟩ := Prod.mk.inj heq
  refine fits_float ?_
  unfold withExponent at hx
  split at hx
  · split_ifs at hx <;> cases hx <;> decide
  · exact scaled?_isFinite hfits hx

theorem readScale_fits (h : readScale negative significand exponent s = some (j, after)) :
    j.Fits (bound + 1) := by
  unfold readScale at h
  split at h
  · exact readExponent_fits hfits h
  · exact readExponent_fits hfits h
  · obtain ⟨x, hx, heq⟩ := Option.map_eq_some_iff.mp h
    obtain ⟨rfl, rfl⟩ := Prod.mk.inj heq
    exact fits_float (scaled?_isFinite hfits hx)

theorem integer?_fits {dropped : Nat} (h : integer? negative significand dropped = some j) :
    j.Fits (bound + 1) := by
  have hmax : maxSignificand = twoTo 64 - 1 := rfl
  have hpos : 0 < twoTo 63 := by decide
  have htwice : twoTo 64 = 2 * twoTo 63 := by decide
  unfold integer? at h
  split_ifs at h
  · obtain ⟨x, hx, rfl⟩ := Option.map_eq_some_iff.mp h
    exact fits_float (scaled?_isFinite hfits hx)
  · cases h
    exact fits_int (by omega) (by omega)
  · cases h
    exact fits_float (isFinite_neg (isFinite_ofNat (Nat.lt_of_le_of_lt hfits (by decide))))
  · cases h
    exact fits_int (by omega) (by omega)

theorem afterWhole_fits {dropped : Nat}
    (h : afterWhole negative significand dropped s = some (j, after)) : j.Fits (bound + 1) := by
  unfold afterWhole at h
  split at h
  · simp only at h
    split_ifs at h
    exact readScale_fits (fillSignificand_le hfits) h
  · exact readScale_fits hfits h
  · exact readScale_fits hfits h
  · obtain ⟨k, hk, heq⟩ := Option.map_eq_some_iff.mp h
    obtain ⟨rfl, rfl⟩ := Prod.mk.inj heq
    exact integer?_fits hfits hk

end Numbers

theorem readNumber_fits {s after : List Char} {j : Json} {bound : Nat}
    (h : readNumber s = some (j, after)) : j.Fits (bound + 1) := by
  have hunsigned {negative : Bool} {s : List Char}
      (h : readUnsigned negative s = some (j, after)) : j.Fits (bound + 1) := by
    rw [readUnsigned_eq] at h
    simp only at h
    split_ifs at h
    exact afterWhole_fits (fillSignificand_le (Nat.zero_le _)) h
  unfold readNumber at h
  split at h
  · exact hunsigned h
  · exact hunsigned h

/-! ## Values that are read -/

section Read

variable {readKey : List Char → Option (List Char × List Char)}

section Steps

variable {fuel depth : Nat} {s rest : List Char}
  (hvalue : ∀ depth s j rest, readValue readKey fuel depth s = some (j, rest) → j.Fits (depth + 1))
  (helements : ∀ depth s js rest, readElements readKey fuel depth s = some (js, rest) →
    ∀ j ∈ js, j.Fits (depth + 1))
  (hmembers : ∀ depth s ms rest, readMembers readKey fuel depth s = some (ms, rest) →
    ∀ m ∈ ms, m.2.Fits (depth + 1))

include helements hmembers in
theorem readValue_fits {j : Json} (h : readValue readKey (fuel + 1) depth s = some (j, rest)) :
    j.Fits (depth + 1) := by
  rw [readValue] at h
  split at h
  case h_1 | h_4 | h_5 | h_6 =>
    obtain ⟨r, -, heq⟩ := Option.map_eq_some_iff.mp h
    obtain ⟨rfl, rfl⟩ := Prod.mk.inj heq
    exact ⟨trivial, Nat.succ_pos _⟩
  case h_2 =>
    split_ifs at h with hdepth
    obtain ⟨depth, rfl⟩ := Nat.exists_eq_succ_of_ne_zero hdepth
    split at h
    · cases h
      exact fits_arr.mpr (by simp)
    · obtain ⟨⟨js, r⟩, hjs, heq⟩ := Option.map_eq_some_iff.mp h
      obtain ⟨rfl, rfl⟩ := Prod.mk.inj heq
      exact fits_arr.mpr (helements _ _ _ _ hjs)
  case h_3 =>
    split_ifs at h with hdepth
    obtain ⟨depth, rfl⟩ := Nat.exists_eq_succ_of_ne_zero hdepth
    split at h
    · cases h
      exact fits_obj.mpr (by simp)
    · obtain ⟨⟨ms, r⟩, hms, heq⟩ := Option.map_eq_some_iff.mp h
      obtain ⟨rfl, rfl⟩ := Prod.mk.inj heq
      exact fits_obj.mpr (hmembers _ _ _ _ hms)
  case h_7 => exact readNumber_fits h

include hvalue helements in
theorem readElements_fits {js : List Json}
    (h : readElements readKey (fuel + 1) depth s = some (js, rest)) :
    ∀ j ∈ js, j.Fits (depth + 1) := by
  rw [readElements] at h
  split at h
  · cases h
  · rename_i hfirst
    split at h
    · obtain ⟨⟨js, r⟩, hjs, heq⟩ := Option.map_eq_some_iff.mp h
      obtain ⟨rfl, rfl⟩ := Prod.mk.inj heq
      exact List.forall_mem_cons.mpr ⟨hvalue _ _ _ _ hfirst, helements _ _ _ _ hjs⟩
    · cases h
      exact List.forall_mem_singleton.mpr (hvalue _ _ _ _ hfirst)
    · cases h

include hvalue hmembers in
theorem readMembers_fits {ms : List (String × Json)}
    (h : readMembers readKey (fuel + 1) depth s = some (ms, rest)) :
    ∀ m ∈ ms, m.2.Fits (depth + 1) := by
  rw [readMembers] at h
  split at h
  case h_2 => cases h
  split at h
  case h_1 => cases h
  split at h
  case h_2 => cases h
  split at h
  · cases h
  · rename_i hfirst
    split at h
    · obtain ⟨⟨ms, r⟩, hms, heq⟩ := Option.map_eq_some_iff.mp h
      obtain ⟨rfl, rfl⟩ := Prod.mk.inj heq
      exact List.forall_mem_cons.mpr ⟨hvalue _ _ _ _ hfirst, hmembers _ _ _ _ hms⟩
    · cases h
      exact List.forall_mem_singleton.mpr (hvalue _ _ _ _ hfirst)
    · cases h

end Steps

/-- The numbers in values, elements and members that are read are within range, and they are nested
no deeper than is allowed. -/
theorem read_fits (fuel : Nat) :
    (∀ depth s j rest, readValue readKey fuel depth s = some (j, rest) → j.Fits (depth + 1)) ∧
    (∀ depth s js rest, readElements readKey fuel depth s = some (js, rest) →
      ∀ j ∈ js, j.Fits (depth + 1)) ∧
    ∀ depth s ms rest, readMembers readKey fuel depth s = some (ms, rest) →
      ∀ m ∈ ms, m.2.Fits (depth + 1) := by
  induction fuel with
  | zero =>
    refine ⟨fun _ _ _ _ h => ?_, fun _ _ _ _ h => ?_, fun _ _ _ _ h => ?_⟩ <;> cases h
  | succ fuel ih =>
    obtain ⟨hvalue, helements, hmembers⟩ := ih
    exact ⟨fun _ _ _ _ => readValue_fits helements hmembers,
      fun _ _ _ _ => readElements_fits hvalue helements,
      fun _ _ _ _ => readMembers_fits hvalue hmembers⟩

theorem readWith?_fits {t : String} {j : Json} (h : readWith? readKey t = some j) :
    j.Fits nestingLimit := by
  unfold readWith? readNestedWith? at h
  split at h
  · rename_i hread
    split_ifs at h
    cases h
    exact (read_fits _).1 _ _ _ _ hread
  · cases h

end Read

theorem read?_within {t : String} {j : Json} (h : read? t = some j) : j.Within Finite :=
  (readWith?_fits h).within

end Dossier.Json
