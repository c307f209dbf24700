import Dossier.Json.Number
import Mathlib.Algebra.Group.Int.Defs
import Mathlib.Algebra.Group.Nat.Defs
import Mathlib.Tactic.Common

/-!
# Finite floating-point numbers

Products, quotients and whole numbers are finite as long as they stay below the largest exponent.
Rounding raises the exponent of a number by one at most.

* `unpack_cases`, `roundWithAccuracy_cases` : what bits stand for, and what rounding gives;
* `ExponentLe`, `ExponentGe` : finite numbers with a bound on their exponents;
* `unpack_pack`, `unpack_pack_exponentGe` : the bits of a number keep its exponent;
* `roundWithAccuracy_exponentLe`, `roundWithAccuracy_exponentGe` : the exponent of a rounded number;
* `isFinite_mul`, `isFinite_div`, `isFinite_ofNat` : numbers that are finite.
-/

namespace Dossier

open Float.Model Float.Model.UnpackedFloat

/-! ## Numbers and their bits -/

/-- The bits of a significand with a leading one in front. -/
theorem log2_append {n : Nat} (b : BitVec n) : (1#1 ++ b).toNat.log2 = n := by
  have hlow : 2 ^ n ≤ (1#1 ++ b).toNat := by
    rw [BitVec.toNat_append, BitVec.toNat_ofNat, Nat.shiftLeft_eq, Nat.mod_eq_of_lt (by decide),
      Nat.one_mul]
    exact Nat.left_le_or
  have hhigh : (1#1 ++ b).toNat < 2 ^ (n + 1) := Nat.add_comm 1 n ▸ (1#1 ++ b).isLt
  exact (Nat.log2_eq_iff (Nat.ne_of_gt (Nat.lt_of_lt_of_le (Nat.two_pow_pos n) hlow))).mpr
    ⟨hlow, hhigh⟩

section Bits

variable {b : BitVec Format.binary64.numBits} {k : Int}

/-- What bits stand for, by the exponent in them. -/
theorem unpack_cases {P : UnpackedFloat → Prop}
    (hspecial : (unpackExponent b).toNat = 2047 → ∀ f : UnpackedFloat, f.isFinite = false → P f)
    (hzero : (unpackExponent b).toNat = 0 → ∀ s, P (.zero s))
    (hsubnormal : (unpackExponent b).toNat = 0 → ∀ s m hm, m < 2 ^ 52 →
      P (.finite s m (-1074) hm))
    (hnormal : (unpackExponent b).toNat ≠ 0 → (unpackExponent b).toNat < 2047 →
      ∀ s m hm, m.log2 = 52 → P (.finite s m ((unpackExponent b).toNat - 1075) hm)) :
    P (UnpackedFloat.unpack Format.binary64 b) := by
  unfold UnpackedFloat.unpack
  dsimp only
  by_cases hones : unpackExponent b = -1#11
  · have hvalue : (unpackExponent b).toNat = 2047 := by
      rw [hones]
      rfl
    rw [if_pos hones]
    by_cases hmantissa : unpackMantissa b = 0#52
    · rw [if_pos hmantissa]
      exact hspecial hvalue _ rfl
    · rw [if_neg hmantissa]
      exact hspecial hvalue _ rfl
  · rw [if_neg hones]
    by_cases hexponent : unpackExponent b = 0#11
    · have hvalue : (unpackExponent b).toNat = 0 := by
        rw [hexponent]
        rfl
      rw [if_pos hexponent]
      by_cases hmantissa : unpackMantissa b = 0#52
      · rw [dif_pos hmantissa]
        exact hzero hvalue _
      · rw [dif_neg hmantissa, hvalue]
        exact hsubnormal hvalue _ _ _ (unpackMantissa b).isLt
    · rw [if_neg hexponent]
      have hlt : (unpackExponent b).toNat < 2048 := (unpackExponent b).isLt
      have hmax : (unpackExponent b).toNat ≠ 2047 := fun hvalue =>
        hones (BitVec.eq_of_toNat_eq hvalue)
      exact hnormal (fun hvalue => hexponent (BitVec.eq_of_toNat_eq hvalue)) (by omega) _ _ _
        (log2_append _)

theorem significand_lt {s : Sign} {m : Nat} {e : Int} {hm : 0 < m}
    (h : UnpackedFloat.unpack Format.binary64 b = .finite s m e hm) : m < 2 ^ 53 := by
  revert h
  refine unpack_cases (P := fun f => f = .finite s m e hm → m < 2 ^ 53) (fun _ f hf h => ?_)
    (fun _ s h => ?_) (fun _ s m hm hlt h => ?_) fun _ _ s m hm hlog h => ?_
  · rw [h] at hf
    cases hf
  · cases h
  · cases h
    exact Nat.lt_trans hlt (by decide)
  · cases h
    have hlt : m < 2 ^ (m.log2 + 1) := Nat.lt_log2_self
    rwa [hlog] at hlt

/-- A finite number whose exponent has a bound. -/
inductive ExponentLe (k : Int) : UnpackedFloat → Prop where
  | zero (s : Sign) : ExponentLe k (.zero s)
  | finite (s : Sign) (m : Nat) {e : Int} (hm : 0 < m) (he : e ≤ k) :
    ExponentLe k (.finite s m e hm)

theorem ExponentLe.isFinite {f : UnpackedFloat} (h : ExponentLe k f) : f.isFinite = true := by
  cases h <;> rfl

/-- The exponent of a number is the one in its bits. -/
theorem unpack_exponentLe (hlow : -1074 ≤ k) (hhigh : k ≤ 971)
    (h : ((unpackExponent b).toNat : Int) ≤ k + 1075) :
    ExponentLe k (UnpackedFloat.unpack Format.binary64 b) :=
  unpack_cases (fun _ => by omega) (fun _ s => .zero s) (fun _ s m hm _ => .finite s m hm hlow)
    fun _ _ s m hm _ => .finite s m hm (by omega)

end Bits

/-- What is finite has an exponent of at most 971. -/
theorem exponentLe_of_isFinite {x : Float} (h : x.isFinite = true) :
    ExponentLe 971 x.toModel.unpack := by
  have hfinite : x.toModel.unpack.isFinite = true := h
  revert hfinite
  refine unpack_cases (P := fun f => f.isFinite = true → ExponentLe 971 f)
    (fun _ f hf hfinite => ?_) (fun _ s _ => .zero s)
    (fun _ s m hm _ _ => .finite s m hm (by decide)) fun _ hlt s m hm _ _ => .finite s m hm ?_
  · exact absurd (hf.symm.trans hfinite) (by decide)
  · omega

/-- A number with an exponent of at most 971 keeps it when it is put into bits. -/
theorem unpack_pack {k : Int} {f : UnpackedFloat} (h : ExponentLe k f) (hlow : -1074 ≤ k)
    (hhigh : k ≤ 971) : ExponentLe k (Float.Model.pack f).unpack := by
  refine unpack_exponentLe hlow hhigh ?_
  show ((unpackExponent (UnpackedFloat.pack Format.binary64 f)).toNat : Int) ≤ k + 1075
  cases h with
  | zero s =>
    show ((unpackExponent (packedZero Format.binary64 s)).toNat : Int) ≤ k + 1075
    rw [packedZero, unpackExponent_packComponents]
    show (0 : Int) ≤ _
    omega
  | @finite s m e hm he =>
    have hbias : (Format.binary64.exponentBias : Int) = 1023 := rfl
    unfold UnpackedFloat.pack
    simp only
    split_ifs with hlarge
    · omega
    · rw [unpackExponent_packComponents, BitVec.toNat_ofNat]
      have := Nat.mod_le (e + Format.binary64.exponentBias + 52).toNat (2 ^ 11)
      omega
    · rw [unpackExponent_packComponents]
      show (0 : Int) ≤ _
      omega

/-- A number with an exponent of at most 971 is finite when it is put into bits. -/
theorem isFinite_pack {f : UnpackedFloat} (h : ExponentLe 971 f) :
    (Float.Model.pack f).isFinite = true := (unpack_pack h (by decide) (by decide)).isFinite

/-! ## Rounding -/

theorem targetExponent_eq (t : Int) : Format.binary64.targetExponent t = max (t - 53) (-1074) := rfl

theorem mantissa_shiftRight (k : Nat) (em : ExtendedMantissa) :
    (em >>> k).mantissa = em.mantissa / 2 ^ k := by
  induction k with
  | zero => exact (Nat.div_one _).symm
  | succ k ih =>
    show (em >>> k).mantissa / 2 = _
    rw [ih, Nat.div_div_eq_div_mul, Nat.pow_succ]

theorem mantissa_ofMantissaAndAccuracy (m : Nat) (a : Accuracy) :
    (ExtendedMantissa.ofMantissaAndAccuracy m a).mantissa = m := by
  cases a with
  | exact => rfl
  | inexact o => cases o <;> rfl

theorem roundedMantissa_le (em : ExtendedMantissa) : em.roundedMantissa ≤ em.mantissa + 1 := by
  unfold ExtendedMantissa.roundedMantissa
  cases em.accuracy with
  | exact => exact Nat.le_succ _
  | inexact o =>
    cases o with
    | lt => exact Nat.le_succ _
    | eq => exact Nat.add_le_add_left (Nat.le_of_lt_succ (Nat.mod_lt _ (by decide))) _
    | gt => exact Nat.le_refl _

theorem le_roundedMantissa (em : ExtendedMantissa) : em.mantissa ≤ em.roundedMantissa := by
  unfold ExtendedMantissa.roundedMantissa
  cases em.accuracy with
  | exact => exact Nat.le_refl _
  | inexact o =>
    cases o with
    | lt => exact Nat.le_refl _
    | eq => exact Nat.le_add_right _ _
    | gt => exact Nat.le_succ _

/-- The number of bits by which a significand is shifted to have 53 bits at most. -/
def excess (m : Nat) (e : Int) : Nat :=
  (Format.binary64.targetExponent (totalExponent m e) - e).toNat

/-- The exponent after the shift. -/
def shiftedExponent (m : Nat) (e : Int) : Int :=
  max e (Format.binary64.targetExponent (totalExponent m e))

/-- A significand that is shifted and rounded. The rounding may carry into one bit more. -/
def roundedSignificand (m : Nat) (e : Int) (a : Accuracy) : Nat :=
  (ExtendedMantissa.ofMantissaAndAccuracy m a >>> excess m e).roundedMantissa

theorem shiftToTargetExponent_eq (m : Nat) (e : Int) (a : Accuracy) :
    shiftToTargetExponent Format.binary64 m e a =
      (ExtendedMantissa.ofMantissaAndAccuracy m a >>> excess m e, shiftedExponent m e) := by
  unfold shiftToTargetExponent shiftToExponent excess shiftedExponent
  simp only [Prod.mk.injEq, true_and]
  omega

section Rounding

variable {s : Sign} {m : Nat} {e k : Int} {a : Accuracy}

/-- A number is rounded by two shifts, the second one for the carry of the first. -/
theorem roundWithAccuracy_cases {P : UnpackedFloat → Prop}
    (hzero : roundedSignificand m e a /
      2 ^ excess (roundedSignificand m e a) (shiftedExponent m e) = 0 → P (.zero s))
    (hfinite : ∀ n hn, n = roundedSignificand m e a /
        2 ^ excess (roundedSignificand m e a) (shiftedExponent m e) →
      P (.finite s n (shiftedExponent (roundedSignificand m e a) (shiftedExponent m e)) hn)) :
    P (roundWithAccuracy Format.binary64 s m e a) := by
  have hfirst : (ExtendedMantissa.ofMantissaAndAccuracy m a >>> excess m e).roundedMantissa =
      roundedSignificand m e a := rfl
  unfold roundWithAccuracy
  rw [shiftToTargetExponent_eq]
  dsimp only
  rw [hfirst, shiftToTargetExponent_eq]
  dsimp only
  have hmantissa : (ExtendedMantissa.ofMantissaAndAccuracy (roundedSignificand m e a) .exact >>>
      excess (roundedSignificand m e a) (shiftedExponent m e)).mantissa = roundedSignificand m e a /
      2 ^ excess (roundedSignificand m e a) (shiftedExponent m e) := by
    rw [mantissa_shiftRight, mantissa_ofMantissaAndAccuracy]
  by_cases h : roundedSignificand m e a /
      2 ^ excess (roundedSignificand m e a) (shiftedExponent m e) = 0
  · rw [dif_pos (hmantissa.trans h)]
    exact hzero h
  · rw [dif_neg (fun heq => h (hmantissa.symm.trans heq))]
    exact hfinite _ _ hmantissa

/-- A significand that is shifted has 53 bits at most, and rounding adds one. -/
theorem roundedSignificand_le : roundedSignificand m e a ≤ 2 ^ 53 := by
  refine Nat.le_trans (roundedMantissa_le _) (Nat.succ_le_of_lt ?_)
  rw [mantissa_shiftRight, mantissa_ofMantissaAndAccuracy, excess, targetExponent_eq, totalExponent,
    Nat.div_lt_iff_lt_mul (Nat.two_pow_pos _), ← Nat.pow_add]
  exact Nat.lt_of_lt_of_le Nat.lt_log2_self (Nat.pow_le_pow_right (by decide) (by omega))

theorem log2_roundedSignificand_le : (roundedSignificand m e a).log2 ≤ 53 := by
  by_cases hzero : roundedSignificand m e a = 0
  · rw [hzero, Nat.log2_zero]
    exact Nat.zero_le _
  · exact Nat.le_of_lt_succ ((Nat.log2_lt hzero).mpr
      (Nat.lt_of_le_of_lt roundedSignificand_le (by decide)))

/-- A rounded number has a larger exponent only if it does not fit into 53 bits. -/
theorem roundWithAccuracy_exponentLe {n : Nat} (hm : m < 2 ^ n) (hn : n + e ≤ k + 52) (he : e < k)
    (hk : -1074 < k) : ExponentLe k (roundWithAccuracy Format.binary64 s m e a) := by
  have hfirst : shiftedExponent m e < k := by
    rw [shiftedExponent, targetExponent_eq, totalExponent]
    by_cases hzero : m = 0
    · rw [hzero, Nat.log2_zero]
      omega
    · have := (Nat.log2_lt hzero).mpr hm
      omega
  refine roundWithAccuracy_cases (fun _ => .zero s) fun n hn _ => .finite s n hn ?_
  have hlog := log2_roundedSignificand_le (m := m) (e := e) (a := a)
  generalize shiftedExponent m e = first at hfirst ⊢
  rw [shiftedExponent, targetExponent_eq, totalExponent]
  omega

end Rounding

/-! ## Large numbers -/

/-- A finite number with a significand of 53 bits and a lower bound on its exponent. -/
inductive ExponentGe (k : Int) : UnpackedFloat → Prop where
  | finite (s : Sign) {m : Nat} {e : Int} (hm : 0 < m) (hlog : m.log2 = 52) (he : k ≤ e) :
    ExponentGe k (.finite s m e hm)

/-- A number with an exponent in its bits is not subnormal. -/
theorem unpack_exponentGe {b : BitVec Format.binary64.numBits} {k : Int} (hlow : -1074 ≤ k)
    (hge : k + 1075 ≤ ((unpackExponent b).toNat : Int)) (hlt : (unpackExponent b).toNat < 2047) :
    ExponentGe k (UnpackedFloat.unpack Format.binary64 b) :=
  unpack_cases (fun _ => by omega) (fun _ => by omega) (fun _ => by omega)
    fun _ _ s m hm hlog => .finite s hm hlog (by omega)

theorem unpackExponent_pack {s : Sign} {m : Nat} {e : Int} {hm : 0 < m} (hlog : m.log2 = 52)
    (hlow : -1074 ≤ e) (hhigh : e ≤ 971) :
    (unpackExponent (UnpackedFloat.pack Format.binary64 (.finite s m e hm))).toNat =
      (e + 1075).toNat := by
  have hbias : (Format.binary64.exponentBias : Int) = 1023 := rfl
  have hbits : Format.binary64.mantissaBits = 53 := rfl
  unfold UnpackedFloat.pack
  simp only
  split_ifs with hlarge hsmall
  · omega
  · rw [unpackExponent_packComponents, BitVec.toNat_ofNat, Nat.mod_eq_of_lt (by omega)]
    omega
  · omega

theorem unpack_pack_exponentGe {k : Int} {f : UnpackedFloat} (hge : ExponentGe k f)
    (hle : ExponentLe 971 f) (hlow : -1074 ≤ k) : ExponentGe k (Float.Model.pack f).unpack := by
  cases hge with
  | @finite s m e hm hlog he =>
    cases hle with
    | finite s m hm hmax =>
      have hexponent : (unpackExponent (UnpackedFloat.pack Format.binary64
          (.finite s m e hm))).toNat = (e + 1075).toNat :=
        unpackExponent_pack hlog (Int.le_trans hlow he) hmax
      exact unpack_exponentGe hlow (hexponent ▸ by omega) (hexponent ▸ by omega)

/-- The leading digits of a number in base two. -/
theorem log2_div_two_pow {m k j : Nat} (hm : m ≠ 0) (h : m.log2 = k + j) :
    (m / 2 ^ j).log2 = k := by
  obtain ⟨hlow, hhigh⟩ := (Nat.log2_eq_iff hm).mp h
  have hlow : 2 ^ k ≤ m / 2 ^ j := by
    rw [Nat.le_div_iff_mul_le (Nat.two_pow_pos j), ← Nat.pow_add]
    exact hlow
  have hhigh : m / 2 ^ j < 2 ^ (k + 1) := by
    rw [Nat.div_lt_iff_lt_mul (Nat.two_pow_pos j), ← Nat.pow_add, Nat.add_right_comm]
    exact hhigh
  exact (Nat.log2_eq_iff (Nat.ne_of_gt (Nat.lt_of_lt_of_le (Nat.two_pow_pos k) hlow))).mpr
    ⟨hlow, hhigh⟩

/-- A significand of 53 bits or more is shifted until 53 bits are left. -/
theorem log2_shifted {m : Nat} {e : Int} (hm : 52 ≤ m.log2) (hlow : -1021 ≤ totalExponent m e) :
    (m / 2 ^ excess m e).log2 = 52 := by
  rw [totalExponent] at hlow
  rw [excess, targetExponent_eq, totalExponent]
  refine log2_div_two_pow ?_ (by omega)
  rintro rfl
  exact absurd hm (by decide)

theorem le_of_log2 {m k : Nat} (hlog : m.log2 = k + 1) : 2 ^ (k + 1) ≤ m := by
  refine hlog ▸ Nat.log2_self_le ?_
  rintro rfl
  exact absurd hlog (by simp)

/-- A significand of 53 bits or more has 53 bits when it is rounded, and the number gets no
smaller exponent than that of its leading 53 bits. -/
theorem roundWithAccuracy_exponentGe {s : Sign} {m : Nat} {e k : Int} {a : Accuracy}
    (hm : 52 ≤ m.log2) (hk : k + 53 ≤ totalExponent m e) (hlow : -1074 ≤ k) :
    ExponentGe k (roundWithAccuracy Format.binary64 s m e a) := by
  have hfirst : k ≤ shiftedExponent m e := by
    rw [totalExponent] at hk
    rw [shiftedExponent, targetExponent_eq, totalExponent]
    omega
  have hrounded : 2 ^ 52 ≤ roundedSignificand m e a := by
    refine Nat.le_trans ?_ (le_roundedMantissa _)
    rw [mantissa_shiftRight, mantissa_ofMantissaAndAccuracy]
    exact le_of_log2 (log2_shifted hm (by omega))
  have hlog : 52 ≤ (roundedSignificand m e a).log2 := (Nat.le_log2 (by omega)).mpr hrounded
  have hshifted : (roundedSignificand m e a /
      2 ^ excess (roundedSignificand m e a) (shiftedExponent m e)).log2 = 52 :=
    log2_shifted hlog (by rw [totalExponent]; omega)
  refine roundWithAccuracy_cases (fun hzero => ?_) fun n hn heq => .finite s hn (heq ▸ hshifted) ?_
  · rw [hzero] at hshifted
    exact absurd hshifted (by decide)
  · exact Int.le_trans hfirst (Int.le_max_left _ _)

/-! ## Products and quotients -/

/-- A finite number is zero, or has a significand of 53 bits and a bound on its exponent. -/
theorem unpack_of_isFinite {x : Float} (h : x.isFinite = true) :
    (∃ s, x.toModel.unpack = .zero s) ∨ ∃ s m e hm, x.toModel.unpack = .finite s m e hm ∧
      m < 2 ^ 53 ∧ e ≤ 971 := by
  have hexponent := exponentLe_of_isFinite h
  generalize hx : x.toModel.unpack = f at hexponent
  cases hexponent with
  | zero s => exact .inl ⟨s, rfl⟩
  | @finite s m e hm he => exact .inr ⟨s, m, e, hm, rfl, significand_lt hx, he⟩

/-- A number with some exponent is finite or infinite when it is put into bits. -/
theorem isFinite_or_isInf_pack {k : Int} {f : UnpackedFloat} (h : ExponentLe k f) :
    (Float.Model.pack f).isFinite = true ∨ (Float.Model.pack f).isInf = true := by
  cases h with
  | zero s => exact .inl (isFinite_pack (.zero s))
  | @finite s m e hm he =>
    by_cases hbound : e ≤ 971
    · exact .inl (isFinite_pack (.finite s m hm hbound))
    · right
      have hpack : UnpackedFloat.pack Format.binary64 (.finite s m e hm) =
          packedInfinity Format.binary64 s := by
        unfold UnpackedFloat.pack
        exact if_pos (show 2048 ≤ (e + 1023 + 52).toNat + 1 by omega)
      show (UnpackedFloat.unpack Format.binary64
        (UnpackedFloat.pack Format.binary64 _)).isInf = true
      rw [hpack]
      cases s <;> decide

theorem roundWithAccuracy_exists (s : Sign) (m : Nat) (e : Int) (a : Accuracy) :
    ∃ k, ExponentLe k (roundWithAccuracy Format.binary64 s m e a) :=
  roundWithAccuracy_cases (P := fun f => ∃ k, ExponentLe k f) (fun _ => ⟨0, .zero s⟩)
    fun n hn _ => ⟨_, .finite s n hn (Int.le_refl _)⟩

/-- The product of finite numbers is finite unless it is too large. -/
theorem isFinite_mul {x y : Float} (hx : x.isFinite = true) (hy : y.isFinite = true)
    (h : (x * y).isInf = false) : (x * y).isFinite = true := by
  obtain ⟨k, hk⟩ : ∃ k, ExponentLe k
      (UnpackedFloat.mul Format.binary64 x.toModel.unpack y.toModel.unpack) := by
    rcases unpack_of_isFinite hx with ⟨s, hx⟩ | ⟨s, m, e, hm, hx, -⟩ <;>
      rcases unpack_of_isFinite hy with ⟨t, hy⟩ | ⟨t, n, f, hn, hy, -⟩ <;> rw [hx, hy]
    · exact ⟨0, .zero _⟩
    · exact ⟨0, .zero _⟩
    · exact ⟨0, .zero _⟩
    · exact roundWithAccuracy_exists _ _ _ _
  rcases isFinite_or_isInf_pack hk with hfinite | hinf
  · exact hfinite
  · exact absurd (hinf.symm.trans h) (by decide)

theorem shiftLeft_lt {n a b : Nat} (h : n < 2 ^ b) : n <<< a < 2 ^ (b + a) := by
  rw [Nat.shiftLeft_eq, Nat.pow_add]
  exact Nat.mul_lt_mul_of_pos_right h (Nat.two_pow_pos a)

theorem div_lt_two_pow {m n a l : Nat} (hm : m < 2 ^ a) (hn : 2 ^ l ≤ n) : m / n < 2 ^ (a - l) := by
  rw [Nat.div_lt_iff_lt_mul (Nat.lt_of_lt_of_le (Nat.two_pow_pos l) hn)]
  calc m < 2 ^ a := hm
    _ ≤ 2 ^ (a - l + l) := Nat.pow_le_pow_right (by decide) (by omega)
    _ = 2 ^ (a - l) * 2 ^ l := Nat.pow_add _ _ _
    _ ≤ 2 ^ (a - l) * n := Nat.mul_le_mul_left _ hn

/-- A finite number divided by a number of two at least is finite. -/
theorem isFinite_div {x y : Float} {t : Sign} {n : Nat} {f : Int} {hn : 0 < n}
    (hx : x.isFinite = true) (hy : y.toModel.unpack = .finite t n f hn)
    (hlarge : 2 ≤ totalExponent n f) : (x / y).isFinite = true := by
  have hquotient : ExponentLe 971
      (UnpackedFloat.div Format.binary64 x.toModel.unpack y.toModel.unpack) := by
    rcases unpack_of_isFinite hx with ⟨s, hx⟩ | ⟨s, m, e, hm, hx, hlt, he⟩ <;> rw [hx, hy]
    · exact .zero _
    · have htarget := targetExponent_eq (totalExponent m e - totalExponent n f)
      have hlog : m.log2 ≤ 52 := Nat.le_of_lt_succ ((Nat.log2_lt (Nat.ne_of_gt hm)).mpr hlt)
      simp only [totalExponent] at htarget hlarge
      refine roundWithAccuracy_exponentLe (div_lt_two_pow (a := 53 + (e - f - min (e - f)
        (Format.binary64.targetExponent (totalExponent m e - totalExponent n f))).toNat)
        (shiftLeft_lt hlt) (Nat.log2_self_le (Nat.ne_of_gt hn))) ?_ ?_ (by decide)
      · simp only [totalExponent]
        omega
      · simp only [totalExponent]
        omega
  exact isFinite_pack hquotient

theorem isFinite_neg {x : Float} (h : x.isFinite = true) : (-x).isFinite = true := by
  have hneg : ExponentLe 971 x.toModel.unpack.neg := by
    rcases unpack_of_isFinite h with ⟨s, hx⟩ | ⟨s, m, e, hm, hx, -, he⟩ <;> rw [hx]
    · exact .zero _
    · exact .finite _ _ _ he
  exact isFinite_pack hneg

/-! ## Whole numbers -/

/-- A whole number of 53 bits is not rounded. -/
theorem ofNat_exponentLe {n : Nat} (h : n < 2 ^ 53) :
    ExponentLe 1 (UnpackedFloat.ofNat Format.binary64 n) := by
  unfold UnpackedFloat.ofNat UnpackedFloat.ofInt UnpackedFloat.normalize
  split
  · rename_i hneg
    rw [Int.compare_eq_lt] at hneg
    omega
  · exact .zero _
  · rw [Int.toNat_natCast]
    unfold UnpackedFloat.round UnpackedFloat.decreaseExponent
    simp only
    generalize (0 - Format.binary64.targetExponent (totalExponent n 0)).toNat = shift
    exact roundWithAccuracy_exponentLe (shiftLeft_lt h) (by omega) (by omega) (by decide)

theorem mul_exponentLe {s t : Sign} {m₁ m₂ n : Nat} {e₁ e₂ k : Int} {h₁ : 0 < m₁} {h₂ : 0 < m₂}
    (hm : m₁ * m₂ < 2 ^ n) (hn : n + (e₁ + e₂) ≤ k + 52) (he : e₁ + e₂ < k) (hk : -1074 < k) :
    ExponentLe k (UnpackedFloat.mul Format.binary64 (.finite s m₁ e₁ h₁) (.finite t m₂ e₂ h₂)) :=
  roundWithAccuracy_exponentLe hm hn he hk

/-- It stays finite when it is multiplied by one. -/
theorem mul_one_exponentLe {f : UnpackedFloat} (h : ExponentLe 1 f)
    (hlt : ∀ s m e hm, f = .finite s m e hm → m < 2 ^ 53) :
    ExponentLe 971 (UnpackedFloat.mul Format.binary64 f
      (.finite .positive (2 ^ 52) (-52) (by decide))) := by
  cases h with
  | zero s => exact .zero _
  | @finite s m e hm he =>
    refine mul_exponentLe (n := 53 + 52) ?_ (by omega) (by omega) (by decide)
    rw [Nat.pow_add]
    exact Nat.mul_lt_mul_of_pos_right (hlt s m e hm rfl) (by decide)

theorem ofScientific_exponentLe {n : Nat} (h : n < 2 ^ 64) :
    ExponentLe 971 (UnpackedFloat.ofScientific Format.binary64 n 0) := by
  have hbits : (2 : Int) ^ Format.binary64.exponentBits = 2048 := rfl
  unfold UnpackedFloat.ofScientific
  by_cases hzero : n = 0
  · rw [dif_pos hzero]
    exact .zero _
  · rw [dif_neg hzero, if_neg (by decide), if_neg (by omega), if_pos (by decide)]
    have hwidth : Format.binary64.mantissaBits = 53 := rfl
    refine mul_exponentLe (n := 64 + 53) ?_ (by omega) (by omega) (by decide)
    rw [hwidth, Int.toNat_zero, Nat.pow_zero, Nat.mul_one]
    exact shiftLeft_lt h

theorem isFinite_ofNat {n : Nat} (h : n < 2 ^ 64) : (Float.ofNat n).isFinite = true := by
  show (Float.ofScientific n false 0).isFinite = true
  unfold Float.ofScientific
  by_cases hsmall : n < 2 ^ 53
  · rw [dif_pos ⟨hsmall, by decide⟩]
    have hone : (Float.exactlyRepresentablePowersOfTen[0]).toModel.unpack =
        .finite .positive (2 ^ 52) (-52) (by decide) := rfl
    have hvalue : n.toUInt64.toNat < 2 ^ 53 := by
      rw [Nat.toUInt64_eq, UInt64.toNat_ofNat']
      omega
    have hwhole : ExponentLe 1 n.toUInt64.toFloat.toModel.unpack :=
      unpack_pack (ofNat_exponentLe hvalue) (by decide) (by decide)
    have hproduct := mul_one_exponentLe hwhole fun s m e hm => significand_lt
    rw [← hone] at hproduct
    exact isFinite_pack hproduct
  · rw [dif_neg (fun hn => hsmall hn.1)]
    exact isFinite_pack (ofScientific_exponentLe h)

theorem isFinite_ofInt {n : Int} (hlow : -2 ^ 63 ≤ n) (hhigh : n < 2 ^ 64) :
    (Float.ofInt n).isFinite = true := by
  cases n with
  | ofNat n => exact isFinite_ofNat (Int.ofNat_lt.mp hhigh)
  | negSucc n => exact isFinite_neg (isFinite_ofNat (by omega))

end Dossier
