import FullText.Proofs.Decimal.Rounding
import FullText.Proofs.Decimal.Units

/-!
Rounding to the format of floating-point numbers. Digits that do not fit are shifted out through a
round bit and a sticky bit, and these tell enough to round as if the fraction were known exactly.
-/

namespace FullText

open Float.Model Float.Model.UnpackedFloat

/-! ### Rounding with a round bit and a sticky bit -/

/-- A mantissa with its two residual bits represents a fraction. -/
structure Represents (em : ExtendedMantissa) (num den : Nat) : Prop where
  mantissa_eq : em.mantissa = num / den
  accuracy_eq : em.accuracy = accuracyOfFraction (num % den) den

theorem represents_div (num den : Nat) :
    Represents (.ofMantissaAndAccuracy (num / den) (accuracyOfFraction (num % den) den))
      num den := by
  generalize haccuracy : accuracyOfFraction (num % den) den = accuracy
  constructor
  · cases accuracy with
    | exact => rfl
    | inexact half => cases half <;> rfl
  · rw [haccuracy]
    cases accuracy with
    | exact => rfl
    | inexact half => cases half <;> rfl

/-- The residual bits tell where the rest of the fraction lies. -/
theorem accuracy_eq_iff {em : ExtendedMantissa} {num den : Nat} (hrest : num < den) :
    em.accuracy = accuracyOfFraction num den ↔
      (em.roundBit = true ↔ den ≤ 2 * num) ∧
        (em.stickyBit = true ↔ num ≠ 0 ∧ 2 * num ≠ den) := by
  obtain ⟨mantissa, roundBit, stickyBit⟩ := em
  unfold accuracyOfFraction
  rcases Nat.eq_zero_or_pos num with rfl | hpos
  · cases roundBit <;> cases stickyBit <;> simp [ExtendedMantissa.accuracy] <;> omega
  · rw [if_neg hpos.ne']
    rcases Nat.lt_trichotomy (2 * num) den with hlt | heq | hgt
    · rw [Nat.compare_eq_lt.mpr hlt]
      cases roundBit <;> cases stickyBit <;> simp [ExtendedMantissa.accuracy] <;> omega
    · rw [Nat.compare_eq_eq.mpr heq]
      cases roundBit <;> cases stickyBit <;> simp [ExtendedMantissa.accuracy] <;> omega
    · rw [Nat.compare_eq_gt.mpr hgt]
      cases roundBit <;> cases stickyBit <;> simp [ExtendedMantissa.accuracy] <;> omega

section Represented

variable {em : ExtendedMantissa} {num den : Nat}

theorem Represents.shiftRightOne (hrepresents : Represents em num den) (hden : 0 < den) :
    Represents em.shiftRightOne num (den * 2) := by
  obtain ⟨hmantissa, haccuracy⟩ := hrepresents
  rw [accuracy_eq_iff (Nat.mod_lt _ hden)] at haccuracy
  obtain ⟨hround, hsticky⟩ := haccuracy
  constructor
  · rw [ExtendedMantissa.shiftRightOne, hmantissa, Nat.div_div_eq_div_mul]
  · rw [accuracy_eq_iff (Nat.mod_lt _ (by omega)), Nat.mod_mul]
    have hrest := Nat.mod_lt num hden
    simp only [ExtendedMantissa.shiftRightOne, hmantissa, bne_iff_ne, Bool.or_eq_true, hround,
      hsticky]
    rcases Nat.mod_two_eq_zero_or_one (num / den) with hbit | hbit
    · rw [hbit]
      omega
    · rw [hbit]
      omega

theorem Represents.shiftRight (hrepresents : Represents em num den) (hden : 0 < den) (n : Nat) :
    Represents (em >>> n) num (den * 2 ^ n) := by
  induction n with
  | zero =>
      rw [Nat.pow_zero, Nat.mul_one]
      exact hrepresents
  | succ n ih =>
      rw [Nat.pow_succ, ← Nat.mul_assoc]
      exact ih.shiftRightOne (Nat.mul_pos hden (Nat.two_pow_pos n))

/-- Rounding with the residual bits is rounding the fraction. -/
theorem Represents.roundedMantissa (hrepresents : Represents em num den) (hden : 0 < den) :
    em.roundedMantissa = roundHalfEven num den := by
  obtain ⟨hmantissa, haccuracy⟩ := hrepresents
  rw [ExtendedMantissa.roundedMantissa, haccuracy, hmantissa]
  unfold accuracyOfFraction roundHalfEven
  dsimp only
  split
  case isTrue hexact =>
    rw [Nat.compare_eq_lt.mpr (by omega)]
    rfl
  case isFalse =>
    cases compare (2 * (num % den)) den with
    | lt => rfl
    | gt => rfl
    | eq =>
        change num / den + num / den % 2 = if num / den % 2 = 0 then num / den else num / den + 1
        split <;> omega

end Represented

/-! ### Rounding to the format -/

theorem targetExponent_eq (t : Int) :
    Format.binary64.targetExponent t = max (t - 53) (-1074) := rfl

theorem excessDigits_eq {n k : Nat} (hlow : 2 ^ (52 + k) ≤ n) (hhigh : n < 2 ^ (53 + k)) :
    excessDigits n = k := by
  refine Nat.le_antisymm (excessDigits_le_iff.mpr hhigh) (Nat.le_of_not_lt fun hlt => ?_)
  have hless : excessDigits n ≤ k - 1 := by omega
  rw [excessDigits_le_iff, show 53 + (k - 1) = 52 + k by omega] at hless
  omega

theorem excessDigits_div (n b : Nat) : excessDigits (n / 2 ^ b) = n.log2 - b + 1 - 53 := by
  refine eq_of_forall_ge_iff fun k => ?_
  rw [excessDigits_le_iff, Nat.div_lt_iff_lt_mul (Nat.two_pow_pos b), ← Nat.pow_add]
  rcases Nat.eq_zero_or_pos n with rfl | hpos
  · exact iff_of_true (Nat.two_pow_pos _) (by simp)
  · rw [← Nat.log2_lt hpos.ne']
    omega

theorem shiftToTargetExponent_eq (num : Nat) {den : Nat} (hden : 0 < den) (e : Int) {n : Nat}
    (hn : n = (max (totalExponent (num / den) e - 53) (-1074) - e).toNat) :
    ∃ em, shiftToTargetExponent .binary64 (num / den) e (accuracyOfFraction (num % den) den) =
      (em, e + n) ∧ Represents em num (den * 2 ^ n) := by
  subst hn
  exact ⟨_, rfl, (represents_div num den).shiftRight hden _⟩

/-- The second of the two shifts takes a last bit, if rounding has made one too many. -/
theorem stands_second_shift {r k : Nat} {e : Int} (he : e = k - 1074) (hr : r ≤ 2 ^ 53)
    (hk : 2 ^ 52 ≤ r ∨ k = 0) :
    ∃ em e', shiftToTargetExponent .binary64 r e .exact = (em, e') ∧
      Stands (if h : em.mantissa = 0 then .zero .positive
        else .finite .positive em.mantissa e' (Nat.pos_of_ne_zero h)) (r * 2 ^ k) := by
  have hshift (n : Nat) (hn : n = (max (totalExponent r e - 53) (-1074) - e).toNat) :
      ∃ em, shiftToTargetExponent .binary64 r e .exact = (em, e + n) ∧
        em.mantissa = r / 2 ^ n := by
    have hexact : accuracyOfFraction (r % 1) 1 = .exact := by rw [Nat.mod_one]; rfl
    rw [← Nat.div_one r] at hn
    obtain ⟨em, hem, hmantissa, -⟩ := shiftToTargetExponent_eq r Nat.one_pos e hn
    rw [hexact, Nat.div_one] at hem
    rw [Nat.one_mul] at hmantissa
    exact ⟨em, hem, hmantissa⟩
  rcases Nat.eq_or_lt_of_le hr with rfl | hless
  · obtain ⟨em, hem, hmantissa⟩ := hshift 1 (by
      rw [he, totalExponent, Nat.log2_two_pow]
      omega)
    have hhalf : em.mantissa = 2 ^ 52 := hmantissa
    have hvalue : 2 ^ 53 * 2 ^ k = em.mantissa * 2 ^ (k + 1) := by rw [hhalf, Nat.pow_succ]; omega
    refine ⟨em, _, hem, ?_⟩
    rw [dif_neg (by omega), hvalue]
    exact .finite (k + 1) (by omega) (by omega) (.inl hhalf.ge)
  · obtain ⟨em, hem, hmantissa⟩ := hshift 0 (by
      have hlog : r.log2 ≤ 52 := by
        rcases Nat.eq_zero_or_pos r with rfl | hpos
        · decide
        · exact Nat.le_of_lt_succ ((Nat.log2_lt hpos.ne').mpr hless)
      rw [he, totalExponent]
      omega)
    rw [Nat.pow_zero, Nat.div_one] at hmantissa
    refine ⟨em, _, hem, ?_⟩
    split
    case isTrue hnone =>
      rw [← hmantissa, hnone, Nat.zero_mul]
      exact .zero _
    case isFalse =>
      rw [← hmantissa]
      exact .finite k (by omega) (by omega) (by omega)

/-- Rounding to the format, once the first shift is known. -/
theorem stands_of_first_shift {num den n k : Nat} {e : Int} (hden : 0 < den)
    (hn : n = (max (totalExponent (num / den) e - 53) (-1074) - e).toNat)
    (he : e + n = k - 1074) (hr : roundHalfEven num (den * 2 ^ n) ≤ 2 ^ 53)
    (hk : 2 ^ 52 ≤ roundHalfEven num (den * 2 ^ n) ∨ k = 0) :
    Stands (roundWithAccuracy .binary64 .positive (num / den) e
      (accuracyOfFraction (num % den) den)) (roundHalfEven num (den * 2 ^ n) * 2 ^ k) := by
  obtain ⟨em, hem, hrepresents⟩ := shiftToTargetExponent_eq num hden e hn
  have hrounded := hrepresents.roundedMantissa (Nat.mul_pos hden (Nat.two_pow_pos n))
  obtain ⟨em', e', hem', hstands⟩ := stands_second_shift he hr hk
  rw [← hrounded] at hem' hstands ⊢
  rw [roundWithAccuracy, hem]
  dsimp only
  rw [hem']
  exact hstands

/-- The rounded value of a fraction is that of its binary digits. -/
theorem stands_round_of_shift {num den num' den' n k : Nat} {e : Int} (hden : 0 < den)
    (hden' : 0 < den') (hn : n = (max (totalExponent (num / den) e - 53) (-1074) - e).toNat)
    (he : e + n = k - 1074) (hk : excessDigits (num' / den') = k)
    (hsame : roundHalfEven num (den * 2 ^ n) = roundHalfEven num' (den' * 2 ^ k)) :
    Stands (roundWithAccuracy .binary64 .positive (num / den) e
      (accuracyOfFraction (num % den) den)) (roundBinary num' den') := by
  have hlow := lt_two_pow_excessDigits (num' / den')
  have hhigh := two_pow_excessDigits_le (n := num' / den')
  rw [roundBinary]
  rw [hk] at hlow hhigh ⊢
  rw [← hsame]
  refine stands_of_first_shift hden hn he ?_ ?_
  · rw [hsame]
    exact roundHalfEven_le_two_pow hden' hlow
  · rw [hsame]
    rcases Nat.eq_zero_or_pos k with hzero | hpos
    · exact .inr hzero
    · exact .inl (two_pow_le_roundHalfEven (hhigh hpos))

/-- A fraction of at least 53 digits keeps its digits when it is multiplied by a power of two. -/
theorem excessDigits_shifted {num den : Nat} (hden : 0 < den) (hdigits : 2 ^ 52 ≤ num / den)
    (c : Nat) : ∃ n, (num / den).log2 = 52 + n ∧ excessDigits (num * 2 ^ c / den) = n + c := by
  have hne : num / den ≠ 0 := by omega
  obtain ⟨n, hn⟩ := Nat.exists_eq_add_of_le ((Nat.le_log2 hne).mpr hdigits)
  have hlow : 2 ^ (52 + n) ≤ num / den := hn ▸ Nat.log2_self_le hne
  have hhigh : num / den < 2 ^ (53 + n) := (Nat.log2_lt hne).mp (by omega)
  rw [Nat.le_div_iff_mul_le hden] at hlow
  rw [Nat.div_lt_iff_lt_mul hden] at hhigh
  refine ⟨n, hn, excessDigits_eq ?_ ?_⟩
  · rw [Nat.le_div_iff_mul_le hden, ← Nat.add_assoc, Nat.pow_add, Nat.mul_right_comm]
    exact Nat.mul_le_mul_right _ hlow
  · rw [Nat.div_lt_iff_lt_mul hden, ← Nat.add_assoc, Nat.pow_add, Nat.mul_right_comm]
    exact Nat.mul_lt_mul_of_pos_right hhigh (Nat.two_pow_pos c)

/-- A fraction of a power of two is rounded to the number of units that it amounts to. The fraction
has to have enough digits, unless it is one of a unit or less. -/
theorem stands_roundWithAccuracy {num den a b : Nat} {e : Int} (hden : 0 < den)
    (he : e = a - b - 1074) (hdigits : 2 ^ 52 ≤ num / den ∨ a ≤ b) :
    Stands (roundWithAccuracy .binary64 .positive (num / den) e
      (accuracyOfFraction (num % den) den)) (roundBinary (num * 2 ^ a) (den * 2 ^ b)) := by
  rcases Nat.lt_or_ge b a with hlt | hle
  · obtain ⟨c, rfl⟩ := Nat.exists_eq_add_of_le hlt.le
    rw [Nat.add_comm b c, Nat.pow_add, ← Nat.mul_assoc, roundBinary_mul hden (Nat.two_pow_pos b)]
    obtain ⟨n, hlog, hexcess⟩ := excessDigits_shifted hden (hdigits.resolve_right (by omega)) c
    refine stands_round_of_shift hden hden (n := n) ?_ (by omega) hexcess ?_
    · rw [totalExponent, hlog]
      omega
    · rw [Nat.pow_add, ← Nat.mul_assoc,
        roundHalfEven_mul (Nat.mul_pos hden (Nat.two_pow_pos n)) (Nat.two_pow_pos c)]
  · obtain ⟨c, rfl⟩ := Nat.exists_eq_add_of_le hle
    have hpos : 0 < den * 2 ^ c := Nat.mul_pos hden (Nat.two_pow_pos c)
    rw [Nat.add_comm a c, Nat.pow_add, ← Nat.mul_assoc, roundBinary_mul hpos (Nat.two_pow_pos a)]
    have hexcess := excessDigits_div (num / den) c
    rw [Nat.div_div_eq_div_mul] at hexcess
    refine stands_round_of_shift hden hpos (n := c + excessDigits (num / (den * 2 ^ c))) ?_
      (by omega) rfl ?_
    · rw [totalExponent, hexcess]
      omega
    · rw [Nat.pow_add, ← Nat.mul_assoc]

end FullText
