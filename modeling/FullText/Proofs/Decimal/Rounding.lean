import FullText.Duration
import Mathlib.Algebra.Order.Ring.Nat
import Mathlib.Tactic.Linarith
import Mathlib.Tactic.Ring

/-!
Rounding to a number of significant binary digits. A fraction of natural numbers is rounded to the
nearest number of 53 digits, and from half way to the even one. Rounding keeps the order, and numbers
that have no more digits stay as they are.
-/

namespace FullText

/-! ### Rounding to integers -/

section Integers

variable {num den n : Nat}

theorem div_le_roundHalfEven (num den : Nat) : num / den ≤ roundHalfEven num den := by
  unfold roundHalfEven
  dsimp only
  split
  · exact Nat.le_refl _
  · exact Nat.le_succ _
  · split
    · exact Nat.le_refl _
    · exact Nat.le_succ _

theorem roundHalfEven_le_succ (num den : Nat) : roundHalfEven num den ≤ num / den + 1 := by
  unfold roundHalfEven
  dsimp only
  split
  · exact Nat.le_succ _
  · exact Nat.le_refl _
  · split
    · exact Nat.le_succ _
    · exact Nat.le_refl _

/-- A fraction is rounded to its integral part exactly when it is below the middle of it and the next
integer, or in the middle while the integral part is even. -/
private theorem roundHalfEven_eq_div_iff :
    roundHalfEven num den = num / den ↔
      2 * (num % den) < den ∨ 2 * (num % den) = den ∧ num / den % 2 = 0 := by
  unfold roundHalfEven
  dsimp only
  split
  case h_1 hlt =>
    rw [Nat.compare_eq_lt] at hlt
    exact iff_of_true rfl (.inl hlt)
  case h_2 hgt =>
    rw [Nat.compare_eq_gt] at hgt
    exact iff_of_false (by omega) (by omega)
  case h_3 heq =>
    rw [Nat.compare_eq_eq] at heq
    split
    case isTrue heven => exact iff_of_true rfl (.inr ⟨heq, heven⟩)
    case isFalse hodd => exact iff_of_false (by omega) (by omega)

/-- A fraction is rounded to at most an integer exactly when it is below the middle of this integer
and the next one, or in the middle while the integer is even. -/
theorem roundHalfEven_le_iff (hden : 0 < den) :
    roundHalfEven num den ≤ n ↔
      2 * num < (2 * n + 1) * den ∨ 2 * num = (2 * n + 1) * den ∧ n % 2 = 0 := by
  have hlow := div_le_roundHalfEven num den
  have hhigh := roundHalfEven_le_succ num den
  have hnum := Nat.div_add_mod num den
  have hrest := Nat.mod_lt num hden
  rcases Nat.lt_trichotomy n (num / den) with hbelow | rfl | habove
  · -- The integral part is above the integer, and so is the middle.
    have hstep : den * (n + 1) ≤ num :=
      Nat.le_trans (Nat.mul_le_mul_left den hbelow) (Nat.mul_div_le num den)
    have hmiddle : (2 * n + 1) * den < 2 * num := by linarith
    exact iff_of_false (by omega) (by omega)
  · have hmiddle : (2 * (num / den) + 1) * den = 2 * (den * (num / den)) + den := by ring
    have hfloor : roundHalfEven num den ≤ num / den ↔ roundHalfEven num den = num / den := by omega
    rw [hmiddle, hfloor, roundHalfEven_eq_div_iff]
    omega
  · have hstep : den * (num / den + 1) ≤ den * n := Nat.mul_le_mul_left den habove
    have hmiddle : 2 * num < (2 * n + 1) * den := by linarith
    exact iff_of_true (by omega) (.inl hmiddle)

/-- Rounding keeps the order of fractions. -/
theorem roundHalfEven_le {num' den' : Nat} (hden : 0 < den) (hden' : 0 < den')
    (hle : num * den' ≤ num' * den) : roundHalfEven num den ≤ roundHalfEven num' den' := by
  have hbound := (roundHalfEven_le_iff hden').mp (Nat.le_refl (roundHalfEven num' den'))
  generalize roundHalfEven num' den' = n at hbound ⊢
  rw [roundHalfEven_le_iff hden]
  have hscaled : 2 * num * den' ≤ 2 * num' * den := by linarith
  rcases hbound with hlt | ⟨heq, heven⟩
  · left
    have hlt' : 2 * num' * den < (2 * n + 1) * den' * den := Nat.mul_lt_mul_of_pos_right hlt hden
    refine Nat.lt_of_mul_lt_mul_right (a := den') ?_
    linarith
  · have hle' : 2 * num ≤ (2 * n + 1) * den := by
      refine Nat.le_of_mul_le_mul_right ?_ hden'
      rw [heq] at hscaled
      linarith
    exact (Nat.lt_or_eq_of_le hle').imp_right fun hsame => ⟨hsame, heven⟩

/-- Only the value of the fraction matters. -/
theorem roundHalfEven_mul (hden : 0 < den) {c : Nat} (hc : 0 < c) :
    roundHalfEven (num * c) (den * c) = roundHalfEven num den := by
  have hboth : num * c * den = num * (den * c) := by ring
  have hden' : 0 < den * c := Nat.mul_pos hden hc
  exact Nat.le_antisymm (roundHalfEven_le hden' hden hboth.le) (roundHalfEven_le hden hden' hboth.ge)

theorem roundHalfEven_exact (n : Nat) (hden : 0 < den) : roundHalfEven (n * den) den = n := by
  have hlow := div_le_roundHalfEven (n * den) den
  rw [Nat.mul_div_cancel n hden] at hlow
  refine Nat.le_antisymm ((roundHalfEven_le_iff hden).mpr (.inl ?_)) hlow
  linarith

end Integers

/-! ### Rounding to binary digits -/

/-- The number of binary digits beyond the first 53. -/
def excessDigits (n : Nat) : Nat :=
  n.log2 + 1 - 53

/-- A fraction rounded to 53 binary digits, or to an integer if that has less. -/
def roundBinary (num den : Nat) : Nat :=
  roundHalfEven num (den * 2 ^ excessDigits (num / den)) * 2 ^ excessDigits (num / den)

section Binary

variable {n m num den num' den' : Nat}

theorem lt_two_pow_excessDigits (n : Nat) : n < 2 ^ (53 + excessDigits n) := by
  have hself : n < 2 ^ (n.log2 + 1) := Nat.lt_log2_self
  have hexponent : n.log2 + 1 ≤ 53 + excessDigits n := by
    unfold excessDigits
    omega
  exact Nat.lt_of_lt_of_le hself (Nat.pow_le_pow_right (by decide) hexponent)

theorem two_pow_excessDigits_le (hn : 0 < excessDigits n) : 2 ^ (52 + excessDigits n) ≤ n := by
  have hlog : 53 ≤ n.log2 := by
    unfold excessDigits at hn
    omega
  have hne : n ≠ 0 := by
    rintro rfl
    exact absurd hlog (by decide)
  have hexponent : 52 + excessDigits n = n.log2 := by
    unfold excessDigits
    omega
  rw [hexponent]
  exact Nat.log2_self_le hne

theorem excessDigits_le_iff {k : Nat} : excessDigits n ≤ k ↔ n < 2 ^ (53 + k) := by
  constructor
  · intro hle
    have hexponent : 53 + excessDigits n ≤ 53 + k := by omega
    exact Nat.lt_of_lt_of_le (lt_two_pow_excessDigits n) (Nat.pow_le_pow_right (by decide) hexponent)
  · intro hlt
    by_contra hgt
    have hlow := two_pow_excessDigits_le (n := n) (by omega)
    have hexponent : 53 + k ≤ 52 + excessDigits n := by omega
    exact absurd (Nat.le_trans (Nat.pow_le_pow_right (by decide) hexponent) hlow)
      (Nat.not_le_of_lt hlt)

theorem excessDigits_le_of_le (hle : n ≤ m) : excessDigits n ≤ excessDigits m :=
  excessDigits_le_iff.mpr (Nat.lt_of_le_of_lt hle (lt_two_pow_excessDigits m))

/-! ### Properties of the rounded numbers -/

theorem roundHalfEven_le_two_pow {k : Nat} (hden : 0 < den) (hlt : num / den < 2 ^ (53 + k)) :
    roundHalfEven num (den * 2 ^ k) ≤ 2 ^ 53 := by
  rw [roundHalfEven_le_iff (Nat.mul_pos hden (Nat.two_pow_pos k))]
  rw [Nat.div_lt_iff_lt_mul hden, Nat.pow_add] at hlt
  left
  have hpos : 0 < den * 2 ^ k := Nat.mul_pos hden (Nat.two_pow_pos k)
  linarith

theorem two_pow_le_roundHalfEven {k : Nat} (hle : 2 ^ (52 + k) ≤ num / den) :
    2 ^ 52 ≤ roundHalfEven num (den * 2 ^ k) := by
  refine Nat.le_trans ?_ (div_le_roundHalfEven _ _)
  rw [← Nat.div_div_eq_div_mul, Nat.le_div_iff_mul_le (Nat.two_pow_pos k), ← Nat.pow_add]
  exact hle

/-- Rounding keeps the order. -/
theorem roundBinary_le (hden : 0 < den) (hden' : 0 < den') (hle : num * den' ≤ num' * den) :
    roundBinary num den ≤ roundBinary num' den' := by
  have hfloor : num / den ≤ num' / den' := by
    rw [Nat.le_div_iff_mul_le hden']
    refine Nat.le_of_mul_le_mul_right ?_ hden
    have hwhole : num / den * den * den' ≤ num * den' :=
      Nat.mul_le_mul_right den' (Nat.div_mul_le_self num den)
    linarith
  have hexcess := excessDigits_le_of_le hfloor
  have hlow := lt_two_pow_excessDigits (num / den)
  have hhigh := two_pow_excessDigits_le (n := num' / den')
  unfold roundBinary
  generalize excessDigits (num / den) = k at *
  generalize excessDigits (num' / den') = k' at *
  rcases Nat.eq_or_lt_of_le hexcess with rfl | hlt
  · refine Nat.mul_le_mul_right _ (roundHalfEven_le (Nat.mul_pos hden (Nat.two_pow_pos k))
      (Nat.mul_pos hden' (Nat.two_pow_pos k)) ?_)
    have hscaled := Nat.mul_le_mul_right (2 ^ k) hle
    linarith
  · -- A power of two lies between the two numbers.
    calc
      _ ≤ 2 ^ 53 * 2 ^ k := Nat.mul_le_mul_right _ (roundHalfEven_le_two_pow hden hlow)
      _ = 2 ^ (53 + k) := (Nat.pow_add 2 53 k).symm
      _ ≤ 2 ^ (52 + k') := Nat.pow_le_pow_right (by decide) (by omega)
      _ = 2 ^ 52 * 2 ^ k' := Nat.pow_add 2 52 k'
      _ ≤ _ := Nat.mul_le_mul_right _ (two_pow_le_roundHalfEven (hhigh (by omega)))

theorem roundBinary_zero (hden : 0 < den) : roundBinary 0 den = 0 := by
  have hexact := roundHalfEven_exact 0 (Nat.mul_pos hden (Nat.two_pow_pos (excessDigits (0 / den))))
  rw [Nat.zero_mul] at hexact
  rw [roundBinary, hexact, Nat.zero_mul]

/-- Only the value of the fraction matters. -/
theorem roundBinary_congr (hden : 0 < den) (hden' : 0 < den')
    (heq : num * den' = num' * den) : roundBinary num den = roundBinary num' den' :=
  Nat.le_antisymm (roundBinary_le hden hden' heq.le) (roundBinary_le hden' hden heq.ge)

theorem roundBinary_mul (hden : 0 < den) {c : Nat} (hc : 0 < c) :
    roundBinary (num * c) (den * c) = roundBinary num den := by
  unfold roundBinary
  rw [Nat.mul_div_mul_right num den hc, Nat.mul_right_comm,
    roundHalfEven_mul (Nat.mul_pos hden (Nat.two_pow_pos _)) hc]

theorem roundBinary_mul_self {c : Nat} (hc : 0 < c) (n : Nat) :
    roundBinary (n * c) c = roundBinary n 1 := by
  rw [← roundBinary_mul Nat.one_pos hc, Nat.one_mul]

theorem roundBinary_of_dvd (hdvd : 2 ^ excessDigits n ∣ n) : roundBinary n 1 = n := by
  unfold roundBinary
  rw [Nat.div_one, Nat.one_mul]
  generalize excessDigits n = k at hdvd ⊢
  obtain ⟨m, rfl⟩ := hdvd
  rw [Nat.mul_comm (2 ^ k) m, roundHalfEven_exact m (Nat.two_pow_pos k)]

/-- A number that has no more than 53 digits before its last zeros stays as it is. -/
theorem roundBinary_exact (hm : m ≤ 2 ^ 53) (k : Nat) : roundBinary (m * 2 ^ k) 1 = m * 2 ^ k := by
  apply roundBinary_of_dvd
  rcases Nat.eq_or_lt_of_le hm with rfl | hlt
  · rw [← Nat.pow_add]
    refine Nat.pow_dvd_pow 2 (excessDigits_le_iff.mpr ?_)
    exact Nat.pow_lt_pow_right (by decide) (by omega)
  · have hexcess : excessDigits (m * 2 ^ k) ≤ k := by
      rw [excessDigits_le_iff, Nat.pow_add]
      exact Nat.mul_lt_mul_of_pos_right hlt (Nat.two_pow_pos k)
    exact Nat.dvd_trans (Nat.pow_dvd_pow 2 hexcess) (Nat.dvd_mul_left _ _)

theorem roundBinary_two_pow (k : Nat) : roundBinary (2 ^ k) 1 = 2 ^ k := by
  have hexact := roundBinary_exact (show 1 ≤ 2 ^ 53 by decide) k
  rwa [Nat.one_mul] at hexact

theorem roundBinary_idem (hden : 0 < den) :
    roundBinary (roundBinary num den) 1 = roundBinary num den :=
  roundBinary_exact (roundHalfEven_le_two_pow hden (lt_two_pow_excessDigits (num / den))) _

/-! ### One more -/

/-- What is rounded to at most a number of 53 digits on some grid is so on a coarser one. -/
private theorem roundBinary_le_of_roundHalfEven_le {x h k : Nat} (hh : h ≤ 2 ^ 53)
    (hk : k ≤ excessDigits x) (hle : roundHalfEven x (2 ^ k) ≤ h) :
    roundBinary x 1 ≤ h * 2 ^ k := by
  rw [roundBinary, Nat.div_one, Nat.one_mul]
  rcases Nat.eq_or_lt_of_le hk with heq | hlt
  · rw [← heq]
    exact Nat.mul_le_mul_right _ hle
  · -- The number is rounded to a power of two, from which on the grid is coarser.
    have hpos := Nat.two_pow_pos k
    have hpower : 2 ^ 53 * 2 ^ k ≤ x := by
      rw [← Nat.pow_add]
      exact Nat.le_trans (Nat.pow_le_pow_right (by decide) (by omega))
        (two_pow_excessDigits_le (by omega))
    have hmantissa : h = 2 ^ 53 := by
      rw [← Nat.le_div_iff_mul_le hpos] at hpower
      have hfloor := div_le_roundHalfEven x (2 ^ k)
      omega
    have hmiddle : 2 * x ≤ (2 * 2 ^ 53 + 1) * 2 ^ k := by
      rw [roundHalfEven_le_iff hpos, hmantissa] at hle
      omega
    have hnext : excessDigits x = k + 1 := by
      refine Nat.le_antisymm (excessDigits_le_iff.mpr ?_) hlt
      rw [Nat.pow_add, Nat.pow_succ]
      omega
    rw [hnext, hmantissa, Nat.pow_succ, show 2 ^ 53 * 2 ^ k = 2 ^ 52 * (2 ^ k * 2) by ring]
    refine Nat.mul_le_mul_right _ ((roundHalfEven_le_iff (by omega)).mpr (.inl ?_))
    omega

/-- Where a number has been rounded up to a multiple of `w`, one more than the multiple is rounded
back to it. -/
private theorem roundHalfEven_next_le {q w h : Nat} (hw : 0 < w) (hh : roundHalfEven q w = h)
    (hup : q < h * w) : roundHalfEven (h * w + 1) w ≤ h := by
  have hpos : 0 < h := by
    rcases Nat.eq_zero_or_pos h with rfl | hpos
    · simp at hup
    · exact hpos
  have hnear : ¬ roundHalfEven q w ≤ h - 1 := by omega
  rw [roundHalfEven_le_iff hw, show 2 * (h - 1) + 1 = 2 * h - 1 by omega, Nat.sub_mul, Nat.one_mul,
    Nat.mul_assoc] at hnear
  have hle : w ≤ h * w := Nat.le_mul_of_pos_left w hpos
  rw [roundHalfEven_le_iff hw, show (2 * h + 1) * w = 2 * (h * w) + w by ring]
  omega

/-- Rounding a number and adding one to it is not more, after rounding, than adding one to the number
before. -/
theorem roundBinary_succ_le (q j : Nat) :
    roundBinary (roundBinary (q * 2 ^ j) 1 + 2 ^ j) 1 ≤ roundBinary ((q + 1) * 2 ^ j) 1 := by
  have hnext : (q + 1) * 2 ^ j = q * 2 ^ j + 2 ^ j := by ring
  rcases Nat.lt_or_ge (q * 2 ^ j) (roundBinary (q * 2 ^ j) 1) with hup | hdown
  · -- The number is rounded up, which takes a grid so coarse that one more is lost.
    refine Nat.le_trans ?_ (roundBinary_le Nat.one_pos Nat.one_pos
      (Nat.mul_le_mul_right 1 (Nat.mul_le_mul_right (2 ^ j) (Nat.le_succ q))))
    obtain ⟨k, hk⟩ : ∃ k, excessDigits (q * 2 ^ j) = j + k := by
      refine Nat.exists_eq_add_of_le (Nat.le_of_lt (Nat.lt_of_not_le fun hfine => ?_))
      have hdvd : 2 ^ excessDigits (q * 2 ^ j) ∣ q * 2 ^ j :=
        Nat.dvd_trans (Nat.pow_dvd_pow 2 hfine) (Nat.dvd_mul_left _ _)
      rw [roundBinary_of_dvd hdvd] at hup
      exact Nat.lt_irrefl _ hup
    obtain ⟨h, hh⟩ : ∃ h, roundHalfEven q (2 ^ k) = h := ⟨_, rfl⟩
    have hgrid : roundHalfEven (q * 2 ^ j) (2 ^ (j + k)) = h := by
      rw [Nat.add_comm, Nat.pow_add, roundHalfEven_mul (Nat.two_pow_pos k) (Nat.two_pow_pos j), hh]
    have hround : roundBinary (q * 2 ^ j) 1 = h * 2 ^ k * 2 ^ j := by
      rw [roundBinary, Nat.div_one, Nat.one_mul, hk, hgrid, Nat.pow_add]
      ring
    have hbound : h ≤ 2 ^ 53 := by
      have hmantissa := roundHalfEven_le_two_pow Nat.one_pos
        ((Nat.div_one _).trans_lt (lt_two_pow_excessDigits (q * 2 ^ j)))
      rwa [Nat.one_mul, hk, hgrid] at hmantissa
    rw [hround] at hup ⊢
    have hback : roundHalfEven (h * 2 ^ k * 2 ^ j + 2 ^ j) (2 ^ (j + k)) ≤ h := by
      rw [← Nat.succ_mul, Nat.add_comm j k, Nat.pow_add,
        roundHalfEven_mul (Nat.two_pow_pos k) (Nat.two_pow_pos j)]
      exact roundHalfEven_next_le (Nat.two_pow_pos k) hh (Nat.lt_of_mul_lt_mul_right hup)
    have hcoarse : j + k ≤ excessDigits (h * 2 ^ k * 2 ^ j + 2 ^ j) := by
      rw [← hk]
      exact excessDigits_le_of_le (Nat.le_trans hup.le (Nat.le_add_right _ _))
    have hmore := roundBinary_le_of_roundHalfEven_le hbound hcoarse hback
    rwa [Nat.add_comm j k, Nat.pow_add, ← Nat.mul_assoc] at hmore
  · exact roundBinary_le Nat.one_pos Nat.one_pos (by omega)

end Binary

end FullText
