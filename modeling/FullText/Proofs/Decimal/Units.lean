import FullText.Duration
import Mathlib

/-!
What floating-point numbers stand for. Every number that is not negative is a multiple of the least
positive one, and what is said of sums, products and quotients here is said of these multiples.
-/

namespace FullText

open Float.Model Float.Model.UnpackedFloat

/-! ### The bits of a number -/

section Bits

/-- The eleven bits of the exponent. -/
def storedExponent (b : BitVec 64) : Nat :=
  b.toNat / 2 ^ 52 % 2 ^ 11

/-- The 52 bits of the significand that are stored. -/
def storedFraction (b : BitVec 64) : Nat :=
  b.toNat % 2 ^ 52

def storedSign (b : BitVec 64) : Sign :=
  .ofBitVec (@unpackSign .binary64 b)

/-- The units of a finite number. The first of its 53 digits is stored as an exponent that is not
zero. -/
def storedUnits (b : BitVec 64) : Nat :=
  if storedExponent b = 0 then storedFraction b
  else (2 ^ 52 + storedFraction b) * 2 ^ (storedExponent b - 1)

variable (b : BitVec 64)

theorem toNat_unpackExponent :
    (@unpackExponent .binary64 b).toNat = storedExponent b := by
  simp [unpackExponent, BitVec.extractLsb, Nat.shiftRight_eq_div_pow, storedExponent]

theorem storedExponent_lt : storedExponent b < 2 ^ 11 :=
  Nat.mod_lt _ (Nat.two_pow_pos 11)

theorem storedFraction_lt : storedFraction b < 2 ^ 52 :=
  Nat.mod_lt _ (Nat.two_pow_pos 52)

theorem toNat_unpackMantissa :
    (@unpackMantissa .binary64 b).toNat = storedFraction b := by
  simp [unpackMantissa, BitVec.extractLsb, storedFraction]

theorem unpack_eq :
    UnpackedFloat.unpack .binary64 b =
      (if storedExponent b = 2047 then
        if storedFraction b = 0 then .infinity (storedSign b)
        else .notANumber
      else if storedExponent b = 0 then
        if hzero : storedFraction b = 0 then .zero (storedSign b)
        else .finite (storedSign b) (storedFraction b) (storedExponent b - 1075 + 1)
          (Nat.pos_of_ne_zero hzero)
      else
        .finite (storedSign b) (2 ^ 52 + storedFraction b) (storedExponent b - 1075)
          (Nat.add_pos_left (Nat.two_pow_pos 52) _)) := by
  have hexponent := toNat_unpackExponent b
  have hmantissa := toNat_unpackMantissa b
  have hones : @unpackExponent .binary64 b = -1#_ ↔ storedExponent b = 2047 := by
    rw [← BitVec.toNat_inj, hexponent]
    rfl
  have hzeros : @unpackExponent .binary64 b = 0#_ ↔ storedExponent b = 0 := by
    rw [← BitVec.toNat_inj, hexponent]
    rfl
  have hnone : @unpackMantissa .binary64 b = 0#_ ↔ storedFraction b = 0 := by
    rw [← BitVec.toNat_inj, hmantissa]
    rfl
  have hone : (1#1 ++ @unpackMantissa .binary64 b).toNat = 2 ^ 52 + storedFraction b := by
    rw [BitVec.toNat_append, hmantissa, ← Nat.shiftLeft_add_eq_or_of_lt]
    · rfl
    · exact hmantissa ▸ BitVec.isLt _
  unfold UnpackedFloat.unpack
  dsimp only
  simp only [hones, hzeros, hnone, hone, hexponent, hmantissa]
  rfl

end Bits

/-! ### Floats and their unpacked forms -/

section Unpacked

variable {x y : Float}

theorem unpack_toModel (x : Float) :
    x.toModel.unpack = UnpackedFloat.unpack .binary64 x.toBits.toBitVec :=
  rfl

theorem unpack_zero : (0 : Float).toModel.unpack = .zero .positive := by
  rfl

theorem isFinite_iff_unpack : x.isFinite ↔ x.toModel.unpack.isFinite = true :=
  Iff.rfl

theorem lt_iff_unpack : x < y ↔ x.toModel.unpack.lt y.toModel.unpack = true :=
  decide_eq_true_iff

theorem le_iff_unpack : x ≤ y ↔ x.toModel.unpack.le y.toModel.unpack = true :=
  decide_eq_true_iff

/-- A finite number is not negative exactly when it is zero at least; minus zero is both. -/
theorem not_neg_iff (hfinite : x.isFinite) : ¬ x < 0 ↔ 0 ≤ x := by
  rw [isFinite_iff_unpack] at hfinite
  rw [lt_iff_unpack, le_iff_unpack, unpack_zero]
  generalize x.toModel.unpack = unpacked at hfinite
  cases unpacked with
  | notANumber => cases hfinite
  | infinity sign => cases hfinite
  | zero sign => cases sign <;> exact iff_of_true Bool.false_ne_true rfl
  | finite sign mantissa exponent hpos =>
      cases sign with
      | positive => exact iff_of_true Bool.false_ne_true rfl
      | negative => exact iff_of_false (not_not_intro rfl) Bool.false_ne_true

end Unpacked

/-! ### What numbers stand for -/

/-- One is this power of two of units. -/
@[irreducible] def oneExponent : Nat :=
  1074

/-- The least power of two of units that is too large for a float. -/
@[irreducible] def infinityExponent : Nat :=
  2098

/-- A float stands for a number of units, of which the least positive float is one. What stands for
too many is infinite. -/
inductive Stands : UnpackedFloat → Nat → Prop
  | zero (sign : Sign) : Stands (.zero sign) 0
  | finite {m : Nat} {e : Int} {hpos : 0 < m} (k : Nat) (he : e = k - 1074) (hm : m < 2 ^ 53)
      (hdigits : 2 ^ 52 ≤ m ∨ k = 0) : Stands (.finite .positive m e hpos) (m * 2 ^ k)
  | infinite {v : Nat} (hv : 2 ^ infinityExponent ≤ v) : Stands (.infinity .positive) v

/-- A number is a number of units, or infinite where that is too large. -/
def HasUnits (x : Float) (v : Nat) : Prop :=
  Stands x.toModel.unpack v

section Units

variable {x y : Float} {v w : Nat}

/-- A number that is not negative is some number of units. -/
theorem exists_hasUnits (hx : 0 ≤ x) : ∃ v, HasUnits x v := by
  unfold HasUnits
  rw [le_iff_unpack, unpack_zero, unpack_toModel, unpack_eq] at hx
  rw [unpack_toModel, unpack_eq]
  have hfraction := storedFraction_lt x.toBits.toBitVec
  generalize storedExponent x.toBits.toBitVec = exponent at *
  generalize storedFraction x.toBits.toBitVec = fraction at *
  generalize storedSign x.toBits.toBitVec = sign at *
  by_cases hinfinite : exponent = 2047
  · rw [if_pos hinfinite] at hx ⊢
    by_cases hnumber : fraction = 0
    · rw [if_pos hnumber] at hx ⊢
      cases sign with
      | negative => cases hx
      | positive => exact ⟨_, .infinite (Nat.le_refl _)⟩
    · rw [if_neg hnumber] at hx
      cases hx
  · rw [if_neg hinfinite] at hx ⊢
    by_cases hsmall : exponent = 0
    · rw [if_pos hsmall] at hx ⊢
      by_cases hnull : fraction = 0
      · rw [dif_pos hnull]
        exact ⟨_, .zero sign⟩
      · rw [dif_neg hnull] at hx ⊢
        cases sign with
        | negative => cases hx
        | positive => exact ⟨_, .finite 0 (by omega) (by omega) (.inr rfl)⟩
    · rw [if_neg hsmall] at hx ⊢
      cases sign with
      | negative => cases hx
      | positive => exact ⟨_, .finite (exponent - 1) (by omega) (by omega) (.inl (by omega))⟩

/-- The units of a finite number are told by its bits. -/
theorem HasUnits.eq_storedUnits (hx : HasUnits x v) (hfinite : x.isFinite) :
    storedExponent x.toBits.toBitVec < 2047 ∧ v = storedUnits x.toBits.toBitVec := by
  have hexponent := storedExponent_lt x.toBits.toBitVec
  rw [isFinite_iff_unpack, unpack_toModel, unpack_eq] at hfinite
  rw [HasUnits, unpack_toModel, unpack_eq] at hx
  unfold storedUnits
  generalize storedExponent x.toBits.toBitVec = exponent at *
  generalize storedFraction x.toBits.toBitVec = fraction at *
  generalize storedSign x.toBits.toBitVec = sign at *
  by_cases hinfinite : exponent = 2047
  · rw [if_pos hinfinite] at hfinite
    split at hfinite <;> cases hfinite
  rw [if_neg hinfinite] at hx
  refine ⟨by omega, ?_⟩
  by_cases hsmall : exponent = 0
  · rw [if_pos hsmall] at hx ⊢
    split at hx
    case isTrue hnone =>
      cases hx
      exact hnone.symm
    case isFalse =>
      cases hx with
      | finite k he _ _ =>
          obtain rfl : k = 0 := by omega
          rw [Nat.pow_zero, Nat.mul_one]
  · rw [if_neg hsmall] at hx ⊢
    cases hx with
    | finite k he _ _ =>
        obtain rfl : k = exponent - 1 := by omega
        rfl

theorem HasUnits.lt_of_isFinite (hx : HasUnits x v) (hfinite : x.isFinite) :
    v < 2 ^ infinityExponent := by
  obtain ⟨hexponent, rfl⟩ := hx.eq_storedUnits hfinite
  have hfraction := storedFraction_lt x.toBits.toBitVec
  unfold storedUnits
  split
  case isTrue =>
    exact Nat.lt_of_lt_of_le hfraction
      (Nat.pow_le_pow_right (by decide) (by rw [infinityExponent]; decide))
  case isFalse =>
    calc
      _ < 2 ^ 53 * 2 ^ (storedExponent x.toBits.toBitVec - 1) :=
        Nat.mul_lt_mul_of_pos_right (by omega) (Nat.two_pow_pos _)
      _ = 2 ^ (53 + (storedExponent x.toBits.toBitVec - 1)) := (Nat.pow_add 2 53 _).symm
      _ ≤ 2 ^ infinityExponent :=
        Nat.pow_le_pow_right (by decide) (by rw [infinityExponent]; omega)

theorem HasUnits.isFinite (hx : HasUnits x v) (hv : v < 2 ^ infinityExponent) : x.isFinite := by
  rw [isFinite_iff_unpack]
  rw [HasUnits] at hx
  generalize x.toModel.unpack = a at hx
  cases hx with
  | zero => rfl
  | finite => rfl
  | infinite hlarge => exact absurd hlarge (Nat.not_le_of_lt hv)

theorem HasUnits.nonneg (hx : HasUnits x v) : 0 ≤ x := by
  rw [le_iff_unpack, unpack_zero]
  rw [HasUnits] at hx
  generalize x.toModel.unpack = a at hx
  cases hx <;> rfl

/-- Of two numbers with all their digits, the one with the greater exponent is greater. -/
private theorem mul_two_pow_lt {m m' k k' : Nat} (hm : m < 2 ^ 53) (hm' : 2 ^ 52 ≤ m')
    (hk : k < k') : m * 2 ^ k < m' * 2 ^ k' :=
  calc
    m * 2 ^ k < 2 ^ 53 * 2 ^ k := Nat.mul_lt_mul_of_pos_right hm (Nat.two_pow_pos k)
    _ = 2 ^ 52 * 2 ^ (k + 1) := by rw [Nat.pow_succ]; omega
    _ ≤ 2 ^ 52 * 2 ^ k' := Nat.mul_le_mul_left _ (Nat.pow_le_pow_right (by decide) hk)
    _ ≤ m' * 2 ^ k' := Nat.mul_le_mul_right _ hm'

theorem HasUnits.lt_iff (hx : HasUnits x v) (hy : HasUnits y w) (hw : w < 2 ^ infinityExponent) :
    x < y ↔ v < w := by
  rw [lt_iff_unpack]
  rw [HasUnits] at hx hy
  generalize x.toModel.unpack = a at hx
  generalize y.toModel.unpack = b at hy
  cases hy with
  | infinite hlarge => exact absurd hlarge (Nat.not_le_of_lt hw)
  | zero sign =>
      refine iff_of_false ?_ (Nat.not_lt_zero v)
      cases hx <;> exact Bool.false_ne_true
  | @finite m' e' hpos' k' he' hm' hdigits' =>
      cases hx with
      | infinite hlarge => exact iff_of_false Bool.false_ne_true (by omega)
      | zero sign => exact iff_of_true rfl (Nat.mul_pos hpos' (Nat.two_pow_pos k'))
      | @finite m e hpos k he hm hdigits =>
          change (some ((compare e e').then (compare m m')) == some Ordering.lt) = true ↔ _
          rw [beq_iff_eq, Option.some.injEq, Ordering.then_eq_lt, Int.compare_eq_lt,
            Int.compare_eq_eq, Nat.compare_eq_lt]
          rcases Nat.lt_trichotomy k k' with hless | rfl | hmore
          · exact iff_of_true (.inl (by omega)) (mul_two_pow_lt hm (by omega) hless)
          · have hsame : e = e' := by omega
            rw [Nat.mul_lt_mul_right (Nat.two_pow_pos k)]
            omega
          · exact iff_of_false (by omega) (Nat.not_lt_of_lt (mul_two_pow_lt hm' (by omega) hmore))

end Units

/-! ### Packing -/

section Packing

variable {sign : Sign} {exponent : BitVec 11} {mantissa : BitVec 52}

theorem storedSign_packComponents :
    storedSign (packComponents .binary64 sign exponent mantissa) = sign := by
  rw [storedSign, unpackSign_packComponents, Sign.ofBitVec_toBitVec]

theorem storedExponent_packComponents :
    storedExponent (packComponents .binary64 sign exponent mantissa) = exponent.toNat := by
  rw [← toNat_unpackExponent, unpackExponent_packComponents]

theorem storedFraction_packComponents :
    storedFraction (packComponents .binary64 sign exponent mantissa) = mantissa.toNat := by
  rw [← toNat_unpackMantissa, unpackMantissa_packComponents]

end Packing

theorem unpack_pack_notANumber : (Float.Model.pack .notANumber).unpack = .notANumber :=
  unpack_packedNaN

/-- Packing keeps what a float stands for. -/
theorem Stands.unpack_pack {u : UnpackedFloat} {v : Nat} (hstands : Stands u v) :
    Stands (Float.Model.pack u).unpack v := by
  have hpacked : (Float.Model.pack u).unpack =
      UnpackedFloat.unpack .binary64 (UnpackedFloat.pack .binary64 u) := rfl
  have hinfinity : UnpackedFloat.unpack .binary64 (packedInfinity .binary64 .positive) =
      .infinity .positive := by
    rw [unpack_eq, packedInfinity, storedExponent_packComponents, storedFraction_packComponents,
      storedSign_packComponents]
    rfl
  rw [hpacked]
  cases hstands with
  | zero sign =>
      rw [UnpackedFloat.pack, unpack_packedZero]
      exact .zero sign
  | infinite hv =>
      rw [UnpackedFloat.pack, hinfinity]
      exact .infinite hv
  | @finite m e hpos k he hm hdigits =>
      have hbiased : (e + (Format.binary64.exponentBias : Int) +
          (Format.binary64.mantissaBitsWithoutImplicit : Int)).toNat = k + 1 := by
        rw [he]
        change ((k : Int) - 1074 + 1023 + 52).toNat = k + 1
        omega
      have hlog : m.log2 + 1 = 53 ↔ 2 ^ 52 ≤ m := by
        rw [← Nat.le_log2 (Nat.ne_of_gt hpos)]
        have hupper := (Nat.log2_lt (Nat.ne_of_gt hpos)).mpr hm
        omega
      rw [UnpackedFloat.pack]
      dsimp only
      rw [hbiased]
      split
      case isTrue hlarge =>
        rw [hinfinity]
        refine .infinite ?_
        have hk : 2046 ≤ k := by
          change 2048 ≤ k + 1 + 1 at hlarge
          omega
        have hm : 2 ^ 52 ≤ m := by omega
        calc
          2 ^ infinityExponent ≤ 2 ^ (52 + k) :=
            Nat.pow_le_pow_right (by decide) (by rw [infinityExponent]; omega)
          _ = 2 ^ 52 * 2 ^ k := Nat.pow_add 2 52 k
          _ ≤ m * 2 ^ k := Nat.mul_le_mul_right _ hm
      case isFalse hsmall =>
        have hk : k + 1 < 2047 := by
          change ¬ 2048 ≤ k + 1 + 1 at hsmall
          omega
        split
        case isTrue hnormal =>
          have hlow := hlog.mp hnormal
          have hexponent : (BitVec.ofNat 11 (k + 1)).toNat = k + 1 := by
            rw [BitVec.toNat_ofNat]
            omega
          have hfraction : (BitVec.ofNat 52 m).toNat = m - 2 ^ 52 := by
            rw [BitVec.toNat_ofNat]
            omega
          have hwhole : m * 2 ^ k = (2 ^ 52 + (m - 2 ^ 52)) * 2 ^ k := by
            rw [Nat.add_sub_cancel' hlow]
          rw [unpack_eq, storedExponent_packComponents, storedFraction_packComponents,
            storedSign_packComponents, hexponent, hfraction, if_neg (by omega),
            if_neg (by omega), hwhole]
          exact .finite k (by omega) (by omega) (.inl (by omega))
        case isFalse hsubnormal =>
          have hlow : ¬ 2 ^ 52 ≤ m := fun hlow => hsubnormal (hlog.mpr hlow)
          obtain rfl : k = 0 := by omega
          have hfraction : (BitVec.ofNat 52 m).toNat = m := by
            rw [BitVec.toNat_ofNat]
            omega
          have hexponent : (0#11).toNat = 0 := rfl
          rw [unpack_eq, storedExponent_packComponents, storedFraction_packComponents,
            storedSign_packComponents, hexponent, hfraction, if_neg (by omega),
            if_pos rfl, dif_neg (by omega)]
          exact .finite 0 (by omega) hm (.inr rfl)

/-! ### Magnitudes -/

section Bits

variable (bits : UInt64)

theorem toNat_exponent_bits :
    (((bits &&& 0x7FFFFFFFFFFFFFFF) >>> 52) &&& 0x7FF).toNat = storedExponent bits.toBitVec := by
  have hlow : bits.toNat &&& 0x7FFFFFFFFFFFFFFF = bits.toNat % 2 ^ 63 :=
    Nat.and_two_pow_sub_one_eq_mod bits.toNat 63
  have hhigh : (bits.toNat % 2 ^ 63) >>> 52 &&& 0x7FF = (bits.toNat % 2 ^ 63) >>> 52 % 2 ^ 11 :=
    Nat.and_two_pow_sub_one_eq_mod _ 11
  rw [UInt64.toNat_and, UInt64.toNat_shiftRight, UInt64.toNat_and]
  change ((bits.toNat &&& 0x7FFFFFFFFFFFFFFF) >>> 52 &&& 0x7FF) = bits.toNat / 2 ^ 52 % 2 ^ 11
  rw [hlow, hhigh, Nat.shiftRight_eq_div_pow]
  omega

theorem toNat_fraction_bits :
    ((bits &&& 0x7FFFFFFFFFFFFFFF) &&& 0xFFFFFFFFFFFFF).toNat = storedFraction bits.toBitVec := by
  have hlow : bits.toNat &&& 0x7FFFFFFFFFFFFFFF = bits.toNat % 2 ^ 63 :=
    Nat.and_two_pow_sub_one_eq_mod bits.toNat 63
  have hhigh : bits.toNat % 2 ^ 63 &&& 0xFFFFFFFFFFFFF = bits.toNat % 2 ^ 63 % 2 ^ 52 :=
    Nat.and_two_pow_sub_one_eq_mod _ 52
  rw [UInt64.toNat_and, UInt64.toNat_and]
  change ((bits.toNat &&& 0x7FFFFFFFFFFFFFFF) &&& 0xFFFFFFFFFFFFF) = bits.toNat % 2 ^ 52
  rw [hlow, hhigh]
  omega

end Bits

/-- A finite number that is not negative has the magnitude of its units. -/
theorem HasUnits.magnitude {x : Float} {v : Nat} (hx : HasUnits x v) (hfinite : x.isFinite) :
    let m := Decimal.Magnitude.ofBits (x.toBits &&& 0x7FFFFFFFFFFFFFFF)
    m.significand * 2 ^ m.exponent.toNat * 2 ^ oneExponent = v * 2 ^ (-m.exponent).toNat := by
  obtain ⟨-, rfl⟩ := hx.eq_storedUnits hfinite
  unfold Decimal.Magnitude.ofBits storedUnits
  dsimp only
  rw [toNat_exponent_bits, toNat_fraction_bits]
  generalize storedExponent x.toBits.toBitVec = exponent
  generalize storedFraction x.toBits.toBitVec = fraction
  by_cases hsmall : exponent = 0
  · have hup : (-1074 : Int).toNat = 0 := rfl
    have hdown : (- -1074 : Int).toNat = oneExponent := by rw [oneExponent]; rfl
    rw [if_pos hsmall, if_pos hsmall]
    dsimp only
    rw [hup, hdown, Nat.pow_zero, Nat.mul_one]
  · have hexponents : (exponent - 1075 : Int).toNat + oneExponent =
        exponent - 1 + (-(exponent - 1075 : Int)).toNat := by
      rw [oneExponent]
      omega
    rw [if_neg hsmall, if_neg hsmall]
    dsimp only
    rw [Nat.mul_assoc, Nat.mul_assoc, ← Nat.pow_add, ← Nat.pow_add, hexponents]
    rfl

end FullText
