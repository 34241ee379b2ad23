import FullText.Proofs.Decimal.Operations

/-!
Spans of time in seconds, and their products. Seconds are rounded more than once on the way to a
floating-point number, but the longer span never has the smaller number; so a factor that can be
applied to a span can be applied to every shorter one.
-/

namespace FullText

namespace Duration

/-! ### Numbers of seconds -/

/-- The least number of seconds that is too large for a span. It does not fit in 64 bits. -/
def tooLong : Float :=
  18446744073709551616

theorem hasUnits_tooLong : HasUnits tooLong (2 ^ (64 + oneExponent)) := by
  have hunits := hasUnits_ofNat 18446744073709551616
  have hpower : 18446744073709551616 * 2 ^ oneExponent = 2 ^ (64 + oneExponent) := by
    rw [Nat.pow_add]
  rw [hpower, roundBinary_two_pow] at hunits
  exact hunits

theorem tooLong_lt : 2 ^ (64 + oneExponent) < 2 ^ infinityExponent :=
  Nat.pow_lt_pow_right (by decide) (by rw [oneExponent, infinityExponent]; decide)

/-- What is no span for being no finite number or a negative one. -/
private theorem special_iff {x : Float} :
    ¬ (!x.isFinite || decide (x < 0)) = true ↔ x.isFinite ∧ 0 ≤ x := by
  simp only [Bool.or_eq_true, Bool.not_eq_true', decide_eq_true_eq, not_or, Bool.not_eq_false]
  exact and_congr_right fun hfinite => not_neg_iff hfinite

theorem ofSeconds?_isSome_iff_units {x : Float} {v : Nat} (hx : HasUnits x v) :
    (ofSeconds? x).isSome ↔ v < 2 ^ (64 + oneExponent) := by
  unfold ofSeconds?
  split
  case isTrue hspecial =>
    refine iff_of_false Bool.false_ne_true fun hv => special_iff.mpr ⟨?_, hx.nonneg⟩ hspecial
    exact hx.isFinite (Nat.lt_trans hv tooLong_lt)
  case isFalse hspecial =>
    have hmagnitude := hx.magnitude (special_iff.mp hspecial).1
    dsimp only at hmagnitude ⊢
    generalize Decimal.Magnitude.ofBits (x.toBits &&& 0x7FFFFFFFFFFFFFFF) = m at hmagnitude ⊢
    -- Both sides of the comparison are multiplied by the units of one.
    have hfits : UInt64.size * Nat.pow 2 (-m.exponent).toNat ≤
        m.significand * Nat.pow 2 m.exponent.toNat ↔ 2 ^ (64 + oneExponent) ≤ v := by
      change 2 ^ 64 * 2 ^ (-m.exponent).toNat ≤ m.significand * 2 ^ m.exponent.toNat ↔ _
      rw [← Nat.mul_le_mul_right_iff (Nat.two_pow_pos oneExponent), hmagnitude, Nat.mul_right_comm,
        ← Nat.pow_add, Nat.mul_le_mul_right_iff (Nat.two_pow_pos _)]
    split
    case isTrue hlong => exact iff_of_false Bool.false_ne_true (Nat.not_lt_of_le (hfits.mp hlong))
    case isFalse hlong => exact iff_of_true rfl (Nat.lt_of_not_le fun hv => hlong (hfits.mpr hv))

/-- A number of seconds is a span exactly when it is not negative and fits in 64 bits. -/
theorem ofSeconds?_isSome_iff (x : Float) : (ofSeconds? x).isSome ↔ 0 ≤ x ∧ x < tooLong := by
  by_cases hx : 0 ≤ x
  · obtain ⟨v, hunits⟩ := exists_hasUnits hx
    rw [ofSeconds?_isSome_iff_units hunits, and_iff_right hx,
      hunits.lt_iff hasUnits_tooLong tooLong_lt]
  · refine iff_of_false ?_ fun hboth => hx hboth.1
    unfold ofSeconds?
    split
    case isTrue => exact Bool.false_ne_true
    case isFalse hspecial => exact absurd (special_iff.mp hspecial).2 hx

/-! ### Spans in seconds -/

/-- The units of the seconds of a span: those of its whole seconds, which are rounded, and of the
nanoseconds of the last one, which are divided and rounded, are added and rounded again. -/
def secondsUnits (nanos : Nat) : Nat :=
  roundBinary (roundBinary (nanos / nanosPerSecond * 2 ^ oneExponent) 1 +
    roundBinary (nanos % nanosPerSecond * 2 ^ oneExponent) nanosPerSecond) 1

theorem hasUnits_nanosPerSecond : HasUnits 1e9 (nanosPerSecond * 2 ^ oneExponent) := by
  have hunpack : (1e9 : Float).toModel.unpack =
      .finite .positive (nanosPerSecond * 2 ^ 23) (-23) (by decide) := by rfl
  obtain ⟨k, hk⟩ : ∃ k, oneExponent = 23 + k := ⟨1051, by rw [oneExponent]⟩
  have hexponent : (-23 : Int) = k - 1074 := by
    rw [oneExponent] at hk
    omega
  rw [HasUnits, hunpack, hk, Nat.pow_add, ← Nat.mul_assoc]
  exact .finite k hexponent (by decide) (.inl (by decide))

theorem hasUnits_seconds (d : Duration) : HasUnits d.seconds (secondsUnits d.nanos) := by
  have hrest : d.nanos % nanosPerSecond < nanosPerSecond := Nat.mod_lt _ (by decide)
  have hdigits : nanosPerSecond ≤ 2 ^ 53 := by decide
  have hnanos := hasUnits_ofNat (d.nanos % nanosPerSecond)
  rw [roundBinary_exact (hrest.le.trans hdigits)] at hnanos
  have hfraction := hnanos.div hasUnits_nanosPerSecond
    ⟨hnanos.isFinite (units_lt_infinity (hrest.le.trans hdigits)),
      hasUnits_nanosPerSecond.isFinite (units_lt_infinity hdigits)⟩
    (Nat.mul_pos (by decide) (Nat.two_pow_pos _))
  rw [roundBinary_mul (by decide) (Nat.two_pow_pos _)] at hfraction
  exact (hasUnits_ofNat _).add hfraction

/-- The longer span has no fewer seconds. -/
theorem secondsUnits_le {m n : Nat} (hle : m ≤ n) : secondsUnits m ≤ secondsUnits n := by
  have hpos : 0 < nanosPerSecond := by decide
  have hseconds : m / nanosPerSecond ≤ n / nanosPerSecond := Nat.div_le_div_right hle
  have hround {v w : Nat} (hle : v ≤ w) : roundBinary v 1 ≤ roundBinary w 1 :=
    roundBinary_le Nat.one_pos Nat.one_pos (Nat.mul_le_mul_right 1 hle)
  unfold secondsUnits
  rcases Nat.eq_or_lt_of_le hseconds with hsame | hless
  · have hrest : m % nanosPerSecond ≤ n % nanosPerSecond := by
      have hm := Nat.div_add_mod m nanosPerSecond
      have hn := Nat.div_add_mod n nanosPerSecond
      rw [hsame] at hm
      omega
    rw [hsame]
    refine hround (Nat.add_le_add_left (roundBinary_le hpos hpos ?_) _)
    exact Nat.mul_le_mul_right _ (Nat.mul_le_mul_right _ hrest)
  · -- The last second of the shorter span counts as a whole one at most, and the longer span has at
    -- least one whole second more.
    have hfraction : roundBinary (m % nanosPerSecond * 2 ^ oneExponent) nanosPerSecond ≤
        2 ^ oneExponent := by
      refine Nat.le_trans (roundBinary_le hpos Nat.one_pos ?_) (roundBinary_two_pow _).le
      rw [Nat.mul_one, Nat.mul_comm (2 ^ oneExponent)]
      exact Nat.mul_le_mul_right _ (Nat.mod_lt _ hpos).le
    calc
      _ ≤ roundBinary (roundBinary (m / nanosPerSecond * 2 ^ oneExponent) 1 +
            2 ^ oneExponent) 1 := hround (Nat.add_le_add_left hfraction _)
      _ ≤ roundBinary ((m / nanosPerSecond + 1) * 2 ^ oneExponent) 1 := roundBinary_succ_le _ _
      _ ≤ roundBinary (n / nanosPerSecond * 2 ^ oneExponent) 1 :=
        hround (Nat.mul_le_mul_right _ hless)
      _ = roundBinary (roundBinary (n / nanosPerSecond * 2 ^ oneExponent) 1) 1 :=
        (roundBinary_idem Nat.one_pos).symm
      _ ≤ _ := hround (Nat.le_add_right _ _)

/-! ### Products -/

section Products

variable {factor : Float} {d d' : Duration}

/-- Infinitely many seconds have no product that is a span. -/
private theorem isFinite_of_fits (hfinite : factor.isFinite) (hfactor : 0 ≤ factor)
    (hfits : factor * d.seconds < tooLong) : d.seconds.isFinite := by
  obtain ⟨v, hv⟩ := exists_hasUnits hfactor
  by_contra hinfinite
  exact HasUnits.not_mul_lt hv hfinite (hasUnits_seconds d) hinfinite hasUnits_tooLong tooLong_lt
    hfits

/-- The product of a span and a factor is a span exactly when its seconds fit in 64 bits. -/
theorem scale?_isSome_iff (hfinite : factor.isFinite) (hfactor : 0 ≤ factor) (d : Duration) :
    (d.scale? factor).isSome ↔ factor * d.seconds < tooLong := by
  rw [scale?, ofSeconds?_isSome_iff, and_iff_right_iff_imp]
  intro hfits
  obtain ⟨v, hv⟩ := exists_hasUnits hfactor
  have hseconds := isFinite_of_fits hfinite hfactor hfits
  exact (HasUnits.mul hv (hasUnits_seconds d) ⟨hfinite, hseconds⟩).nonneg

/-- A factor that a span can be multiplied by can be applied to every shorter span. -/
theorem scale?_isSome_of_le (hfinite : factor.isFinite) (hfactor : 0 ≤ factor)
    (hle : d.nanos ≤ d'.nanos) (hscale : (d'.scale? factor).isSome) : (d.scale? factor).isSome := by
  obtain ⟨v, hv⟩ := exists_hasUnits hfactor
  have hunits := secondsUnits_le hle
  have hlonger : d'.seconds.isFinite :=
    isFinite_of_fits hfinite hfactor ((scale?_isSome_iff hfinite hfactor d').mp hscale)
  have hshorter : d.seconds.isFinite := (hasUnits_seconds d).isFinite
    (Nat.lt_of_le_of_lt hunits ((hasUnits_seconds d').lt_of_isFinite hlonger))
  have hproduct := HasUnits.mul hv (hasUnits_seconds d) ⟨hfinite, hshorter⟩
  have hproduct' := HasUnits.mul hv (hasUnits_seconds d') ⟨hfinite, hlonger⟩
  rw [scale?, ofSeconds?_isSome_iff_units hproduct'] at hscale
  rw [scale?, ofSeconds?_isSome_iff_units hproduct]
  refine Nat.lt_of_le_of_lt (roundBinary_le (Nat.two_pow_pos _) (Nat.two_pow_pos _) ?_) hscale
  exact Nat.mul_le_mul_right _ (Nat.mul_le_mul_left v hunits)

end Products

end Duration

end FullText
