import Intake.Json.Basic

namespace Intake

theorem Number.toInt64?_int {n : Int} (lower : -0x8000_0000_0000_0000 ≤ n)
    (upper : n < 0x1_0000_0000_0000_0000) (i : Int64) :
    (Number.int n lower upper).toInt64? = some i ↔ i.toInt = n := by
  have hlt := i.toInt_lt
  simp only [toInt64?]
  split
  · rename_i hn
    simp only [Option.some.injEq]
    constructor
    · intro h
      subst h
      exact Int64.toInt_ofInt_of_le lower hn
    · intro h
      subst h
      exact Int64.ofInt_toInt i
  · simp only [reduceCtorEq, false_iff]
    omega

namespace Rounding

open Float.Model Float.Model.UnpackedFloat

/-- Bits below the exponent of the infinities stand for a number. -/
theorem isFinite_unpack {b : BitVec Format.binary64.numBits} (h : unpackExponent b ≠ -1#11) :
    (UnpackedFloat.unpack Format.binary64 b).isFinite = true := by
  unfold UnpackedFloat.unpack
  dsimp only
  rw [if_neg h]
  by_cases hlow : unpackExponent b = 0#11
  · rw [if_pos hlow]
    by_cases hzero : unpackMantissa b = 0#52
    · rw [dif_pos hzero]
      rfl
    · rw [dif_neg hzero]
      rfl
  · rw [if_neg hlow]
    rfl

theorem isFinite_pack {f : UnpackedFloat}
    (h : unpackExponent (UnpackedFloat.pack Format.binary64 f) ≠ -1#11) :
    (Float.Model.pack f).isFinite = true := isFinite_unpack h

theorem isFinite_pack_zero (s : Sign) : (Float.Model.pack (.zero s)).isFinite = true := by
  apply isFinite_pack
  have hpack : UnpackedFloat.pack Format.binary64 (.zero s) =
    packComponents Format.binary64 s 0 0 := rfl
  rw [hpack, unpackExponent_packComponents]
  decide

/-- The exponent 971 is the largest that is left for numbers. -/
theorem isFinite_pack_finite (s : Sign) {m : Nat} {e : Int} (hm : 0 < m) (he : e ≤ 971) :
    (Float.Model.pack (.finite s m e hm)).isFinite = true := by
  apply isFinite_pack
  have hpack : UnpackedFloat.pack Format.binary64 (.finite s m e hm) =
      if 2048 ≤ (e + 1023 + 52).toNat + 1 then packedInfinity Format.binary64 s
      else if m.log2 + 1 = 53 then
        packComponents Format.binary64 s (BitVec.ofNat 11 (e + 1023 + 52).toNat) (BitVec.ofNat 52 m)
      else packComponents Format.binary64 s 0#11 (BitVec.ofNat 52 m) := rfl
  rw [hpack, if_neg (by omega)]
  split
  · rw [unpackExponent_packComponents]
    intro h
    have hn := congrArg BitVec.toNat h
    rw [BitVec.toNat_ofNat] at hn
    have hl : (-1#11).toNat = 2047 := rfl
    have hlt := Nat.mod_le (e + 1023 + 52).toNat (2 ^ 11)
    omega
  · rw [unpackExponent_packComponents]
    decide

theorem mantissa_shift_le (em : ExtendedMantissa) (k : Nat) :
    (em >>> k).mantissa ≤ em.mantissa := by
  induction k with
  | zero => exact Nat.le_refl _
  | succ k ih => exact Nat.le_trans (Nat.div_le_self _ 2) ih

/-- Rounding adds one to a mantissa at most. -/
theorem roundedMantissa_le (em : ExtendedMantissa) : em.roundedMantissa ≤ em.mantissa + 1 := by
  obtain ⟨m, r, s⟩ := em
  cases r <;> cases s <;>
    simp only [ExtendedMantissa.roundedMantissa, ExtendedMantissa.accuracy,
      Accuracy.roundToNearestEven] <;> omega

theorem target_mantissa_le (m : Nat) (e : Int) (a : Accuracy) :
    (shiftToTargetExponent Format.binary64 m e a).1.mantissa ≤ m := by
  have h := mantissa_shift_le (ExtendedMantissa.ofMantissaAndAccuracy m a)
    (Format.binary64.targetExponent (totalExponent m e) - e).toNat
  have hm : (ExtendedMantissa.ofMantissaAndAccuracy m a).mantissa = m := by
    cases a with
    | exact => rfl
    | inexact o => cases o <;> rfl
  rw [hm] at h
  exact h

/-- The exponent grows by no more than the length of the mantissa. -/
theorem target_exponent_le (m : Nat) (e : Int) (a : Accuracy) :
    (shiftToTargetExponent Format.binary64 m e a).2 ≤ max (e + m.log2) (-1074) := by
  have hexponent : (shiftToTargetExponent Format.binary64 m e a).2 =
    e + ((max (totalExponent m e - 53) (-1074)) - e).toNat := rfl
  have htotal : totalExponent m e = m.log2 + 1 + e := rfl
  omega

theorem log2_le_of_le_succ {m r : Nat} (h : r ≤ m + 1) : r.log2 ≤ m.log2 + 1 := by
  by_cases hr : r = 0
  · subst hr
    exact Nat.zero_le _
  · have hm : m < 2 ^ (m.log2 + 1) := Nat.lt_log2_self
    have hd : 2 ^ (m.log2 + 2) = 2 ^ (m.log2 + 1) * 2 := Nat.pow_succ 2 (m.log2 + 1)
    have hlt : r.log2 < m.log2 + 2 := (Nat.log2_lt hr).mpr (by omega)
    omega

/-- A mantissa of at most 121 bits, and no scaling up: the double is finite. -/
theorem isFinite_pack_round (s : Sign) {m : Nat} {e : Int} (a : Accuracy)
    (hm : m.log2 ≤ 120) (he : e ≤ 0) :
    (Float.Model.pack (roundWithAccuracy Format.binary64 s m e a)).isFinite = true := by
  have hfirst := target_exponent_le m e a
  have hshort := target_mantissa_le m e a
  have hround := roundedMantissa_le (shiftToTargetExponent Format.binary64 m e a).1
  unfold roundWithAccuracy
  generalize shiftToTargetExponent Format.binary64 m e a = first at hfirst hshort hround
  obtain ⟨em, e₁⟩ := first
  dsimp only at hfirst hshort hround ⊢
  have hlog := log2_le_of_le_succ (Nat.le_trans hround (Nat.succ_le_succ hshort))
  -- A mantissa that rounding made longer is shifted once more.
  have hsecond := target_exponent_le em.roundedMantissa e₁ .exact
  generalize shiftToTargetExponent Format.binary64 em.roundedMantissa e₁ .exact = final at hsecond ⊢
  by_cases hzero : final.1.mantissa = 0
  · rw [dif_pos hzero]
    exact isFinite_pack_zero s
  · rw [dif_neg hzero]
    exact isFinite_pack_finite s (Nat.pos_of_ne_zero hzero) (by omega)

/-- The double nearest to an integer that is too large for 63 bits is a number. -/
theorem isFinite_ofNat {n : Nat} (lower : 0x8000_0000_0000_0000 ≤ n)
    (upper : n < 0x1_0000_0000_0000_0000) : (Float.ofNat n).isFinite = true := by
  have hlong : ¬ (n < 2 ^ 53 ∧ 0 ≤ 22) := by
    intro h
    have hp : 2 ^ 53 = 0x20_0000_0000_0000 := rfl
    omega
  have hslow : Float.ofNat n = .ofModel (Float.Model.ofScientific n 0) := by
    change Float.ofScientific n false 0 = _
    unfold Float.ofScientific
    rw [dif_neg hlong]
    rfl
  rw [hslow]
  have hn : n ≠ 0 := by omega
  have hlog : (n <<< Format.binary64.mantissaBits * 10 ^ (0 : Int).toNat).log2 ≤ 120 := by
    have hfactor : 2 ^ Format.binary64.mantissaBits = 0x20_0000_0000_0000 := rfl
    have hbound : 2 ^ 121 = 0x200_0000_0000_0000_0000_0000_0000_0000 := rfl
    rw [Nat.shiftLeft_eq, hfactor, show 10 ^ (0 : Int).toNat = 1 from rfl, Nat.mul_one]
    have hlt : (n * 0x20_0000_0000_0000).log2 < 121 := (Nat.log2_lt (by omega)).mpr (by omega)
    omega
  have hround := isFinite_pack_round .positive .exact hlog (by decide : (-(53 : Int)) + 0 ≤ 0)
  change (Float.Model.pack (UnpackedFloat.ofScientific Format.binary64 n 0)).isFinite = true
  have hrange : (2 ^ Format.binary64.exponentBits : Int) = 2048 := rfl
  unfold UnpackedFloat.ofScientific
  rw [dif_neg hn, if_neg (by decide), if_neg (by omega), if_pos (by decide)]
  exact hround

end Rounding

/-- A number that is no signed 64-bit integer has a double next to it. -/
theorem Number.isFinite_toFloat {n : Number} (h : n.toInt64? = none) :
    n.toFloat.isFinite = true := by
  cases n with
  | int n lower upper =>
    have hlarge : ¬ n < 0x8000_0000_0000_0000 := by
      intro hn
      have hsome : (Number.int n lower upper).toInt64? = some (Int64.ofInt n) := if_pos hn
      rw [hsome] at h
      cases h
    have hnearest : (Number.int n lower upper).toFloat = Float.ofNat n.natAbs :=
      if_neg (by omega)
    rw [hnearest]
    exact Rounding.isFinite_ofNat (by omega) (by omega)
  | float f finite => exact finite

end Intake
