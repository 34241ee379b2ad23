import FullText.Proofs.Decimal.Significands

/-!
Sums, products and quotients of floating-point numbers. Each is the rounded value of what the
numbers stand for, and is infinite where that is too large.
-/

namespace FullText

open Float.Model Float.Model.UnpackedFloat

/-! ### Whole numbers -/

/-- A number of enough digits, or of no more than a unit, is rounded as a fraction of one. -/
theorem stands_round_exact {m a b : Nat} {e : Int} (he : e = a - b - 1074)
    (hdigits : 2 ^ 52 ≤ m ∨ a ≤ b) :
    Stands (roundWithAccuracy .binary64 .positive m e .exact)
      (roundBinary (m * 2 ^ a) (2 ^ b)) := by
  have hexact : accuracyOfFraction (m % 1) 1 = .exact := by rw [Nat.mod_one]; rfl
  rw [← Nat.div_one m] at hdigits
  have hstands := stands_roundWithAccuracy Nat.one_pos he hdigits
  rwa [hexact, Nat.div_one, Nat.one_mul] at hstands

/-- A number is given more digits where it has too few before it is rounded. -/
theorem stands_round {m a : Nat} {e : Int} (hm : 0 < m) (he : e = a - 1074) :
    Stands (UnpackedFloat.round .binary64 .positive m e) (roundBinary (m * 2 ^ a) 1) := by
  unfold UnpackedFloat.round decreaseExponent
  dsimp only
  rw [targetExponent_eq, totalExponent]
  generalize hs : (e - max (m.log2 + 1 + e - 53) (-1074)).toNat = s
  have hdigits : 2 ^ 52 ≤ m <<< s ∨ a ≤ s := by
    rcases Nat.lt_or_ge s a with hlt | hle
    · left
      have hlog : 52 ≤ m.log2 + s := by omega
      rw [Nat.shiftLeft_eq]
      calc
        2 ^ 52 ≤ 2 ^ (m.log2 + s) := Nat.pow_le_pow_right (by decide) hlog
        _ = 2 ^ m.log2 * 2 ^ s := Nat.pow_add 2 _ s
        _ ≤ m * 2 ^ s := Nat.mul_le_mul_right _ (Nat.log2_self_le hm.ne')
    · exact .inr hle
  have hstands := stands_round_exact (show e - s = a - s - 1074 by omega) hdigits
  rw [Nat.shiftLeft_eq, Nat.mul_right_comm] at hstands
  rwa [roundBinary_mul_self (Nat.two_pow_pos s), ← Nat.shiftLeft_eq] at hstands

theorem stands_normalize (n a : Nat) {e : Int} (he : e = a - 1074) :
    Stands (UnpackedFloat.normalize .binary64 n e .positive) (roundBinary (n * 2 ^ a) 1) := by
  unfold UnpackedFloat.normalize
  rcases Nat.eq_zero_or_pos n with rfl | hpos
  · rw [Nat.zero_mul, roundBinary_zero Nat.one_pos]
    exact .zero _
  · have hcompare : compare (n : Int) 0 = .gt := by
      rw [Int.compare_eq_gt]
      omega
    rw [hcompare]
    exact stands_round hpos he

section Operations

variable {a b : UnpackedFloat} {v w : Nat}

/-- A number is rounded to itself. -/
theorem Stands.round (hstands : Stands a v) : Stands a (roundBinary v 1) := by
  cases hstands with
  | zero sign =>
      rw [roundBinary_zero Nat.one_pos]
      exact .zero sign
  | finite k he hm hdigits =>
      rw [roundBinary_exact hm.le k]
      exact .finite k he hm hdigits
  | infinite hv =>
      refine .infinite ?_
      rw [← roundBinary_two_pow infinityExponent]
      exact roundBinary_le Nat.one_pos Nat.one_pos (Nat.mul_le_mul_right 1 hv)

/-- Where a product is finite, so are the factors. -/
theorem Stands.mul (ha : Stands a v) (hb : Stands b w)
    (hfinite : a.isFinite = true ∧ b.isFinite = true) :
    Stands (UnpackedFloat.mul .binary64 a b) (roundBinary (v * w) (2 ^ oneExponent)) := by
  have hden : 0 < 2 ^ oneExponent := Nat.two_pow_pos oneExponent
  cases ha with
  | infinite => cases hfinite.1
  | zero sign =>
      rw [Nat.zero_mul, roundBinary_zero hden]
      cases hb with
      | infinite => cases hfinite.2
      | zero => exact .zero _
      | finite => exact .zero _
  | @finite m _ hpos k he hm hdigits =>
      cases hb with
      | infinite => cases hfinite.2
      | zero sign' =>
          rw [Nat.mul_zero, roundBinary_zero hden]
          exact .zero _
      | @finite m' _ hpos' k' he' hm' hdigits' =>
          have hproduct : 2 ^ 52 ≤ m * m' ∨ k + k' ≤ oneExponent := by
            rcases hdigits with hnormal | rfl
            · exact .inl (Nat.le_trans hnormal (Nat.le_mul_of_pos_right m hpos'))
            · rcases hdigits' with hnormal | rfl
              · exact .inl (Nat.le_trans hnormal (Nat.le_mul_of_pos_left m' hpos))
              · exact .inr (Nat.zero_le _)
          have hvalue : m * 2 ^ k * (m' * 2 ^ k') = m * m' * 2 ^ (k + k') := by
            rw [Nat.pow_add]
            ring
          rw [hvalue]
          refine stands_round_exact ?_ hproduct
          rw [he, he', oneExponent]
          omega

theorem Stands.add (ha : Stands a v) (hb : Stands b w) :
    Stands (UnpackedFloat.add .binary64 a b) (roundBinary (v + w) 1) := by
  have hinfinite {v : Nat} (hv : 2 ^ infinityExponent ≤ v) :
      Stands (.infinity .positive) (roundBinary v 1) := (Stands.infinite hv).round
  cases ha with
  | infinite hv =>
      have hsum := hinfinite (Nat.le_trans hv (Nat.le_add_right v w))
      cases hb <;> exact hsum
  | zero sign =>
      rw [Nat.zero_add]
      cases hb with
      | infinite hw => exact hinfinite hw
      | zero sign' =>
          rw [roundBinary_zero Nat.one_pos, UnpackedFloat.add]
          split <;> exact .zero _
      | finite k he hm hdigits => exact (Stands.finite k he hm hdigits).round
  | @finite m e hpos k he hm hdigits =>
      cases hb with
      | infinite hw => exact hinfinite (Nat.le_trans hw (Nat.le_add_left w _))
      | zero sign' => exact (Stands.finite k he hm hdigits).round
      | @finite m' e' hpos' k' he' hm' hdigits' =>
          -- Both are written with the smaller of the two exponents.
          have hleft : m <<< (e - min e e').toNat * 2 ^ min k k' = m * 2 ^ k := by
            rw [Nat.shiftLeft_eq, Nat.mul_assoc, ← Nat.pow_add]
            congr 2
            omega
          have hright : m' <<< (e' - min e e').toNat * 2 ^ min k k' = m' * 2 ^ k' := by
            rw [Nat.shiftLeft_eq, Nat.mul_assoc, ← Nat.pow_add]
            congr 2
            omega
          rw [← hleft, ← hright, ← Nat.add_mul]
          exact stands_normalize _ _ (by omega)

theorem two_pow_le_div {m m' shift : Nat} (hm : 0 < m) (hm' : 0 < m')
    (hshift : m'.log2 + 53 ≤ m.log2 + shift) : 2 ^ 52 ≤ m * 2 ^ shift / m' := by
  rw [Nat.le_div_iff_mul_le hm']
  calc
    2 ^ 52 * m' ≤ 2 ^ 52 * 2 ^ (m'.log2 + 1) := Nat.mul_le_mul_left _ Nat.lt_log2_self.le
    _ = 2 ^ (m'.log2 + 53) := by rw [← Nat.pow_add]; congr 1; omega
    _ ≤ 2 ^ (m.log2 + shift) := Nat.pow_le_pow_right (by decide) hshift
    _ = 2 ^ m.log2 * 2 ^ shift := Nat.pow_add 2 _ _
    _ ≤ m * 2 ^ shift := Nat.mul_le_mul_right _ (Nat.log2_self_le hm.ne')

/-- A number divided by a positive one. -/
theorem Stands.div (ha : Stands a v) (hb : Stands b w)
    (hfinite : a.isFinite = true ∧ b.isFinite = true) (hw : 0 < w) :
    Stands (UnpackedFloat.div .binary64 a b) (roundBinary (v * 2 ^ oneExponent) w) := by
  cases hb with
  | infinite => cases hfinite.2
  | zero => cases hw
  | @finite m' e' hpos' k' he' hm' hdigits' =>
      cases ha with
      | infinite => cases hfinite.1
      | zero sign =>
          rw [Nat.zero_mul, roundBinary_zero hw]
          exact .zero _
      | @finite m e hpos k he hm hdigits =>
          rw [UnpackedFloat.div, divCore]
          dsimp only
          rw [targetExponent_eq, totalExponent, totalExponent, Nat.shiftLeft_eq]
          generalize ht : min (e - e') (max (m.log2 + 1 + e - (m'.log2 + 1 + e') - 53) (-1074)) = t
          obtain ⟨s, hs⟩ : ∃ s : Nat, (e - e' - t).toNat = s := ⟨_, rfl⟩
          rw [hs]
          have hquotient : 2 ^ 52 ≤ m * 2 ^ s / m' ∨
              (t + 1074).toNat ≤ (-(t + 1074)).toNat := by
            rcases lt_or_ge (-1074) t with hlarge | hsmall
            · exact .inl (two_pow_le_div hpos hpos' (by omega))
            · exact .inr (by omega)
          have hstands := stands_roundWithAccuracy hpos'
            (show t = (t + 1074).toNat - (-(t + 1074)).toNat - 1074 by omega) hquotient
          have hexponents : s + (t + 1074).toNat + k' = k + oneExponent + (-(t + 1074)).toNat := by
            rw [oneExponent]
            omega
          have hvalue : m * 2 ^ s * 2 ^ (t + 1074).toNat * (m' * 2 ^ k') =
              m * 2 ^ k * 2 ^ oneExponent * (m' * 2 ^ (-(t + 1074)).toNat) :=
            calc
              _ = m * m' * 2 ^ (s + (t + 1074).toNat + k') := by
                rw [Nat.pow_add, Nat.pow_add]
                ring
              _ = m * m' * 2 ^ (k + oneExponent + (-(t + 1074)).toNat) := by rw [hexponents]
              _ = _ := by
                rw [Nat.pow_add, Nat.pow_add]
                ring
          rwa [roundBinary_congr (Nat.mul_pos hpos' (Nat.two_pow_pos _)) hw hvalue] at hstands

end Operations

/-! ### Numbers as units -/

section Floats

variable {x y : Float} {v w : Nat}

theorem HasUnits.mul (hx : HasUnits x v) (hy : HasUnits y w) (hfinite : x.isFinite ∧ y.isFinite) :
    HasUnits (x * y) (roundBinary (v * w) (2 ^ oneExponent)) :=
  (Stands.mul hx hy hfinite).unpack_pack

theorem HasUnits.add (hx : HasUnits x v) (hy : HasUnits y w) :
    HasUnits (x + y) (roundBinary (v + w) 1) :=
  (Stands.add hx hy).unpack_pack

theorem HasUnits.div (hx : HasUnits x v) (hy : HasUnits y w) (hfinite : x.isFinite ∧ y.isFinite)
    (hw : 0 < w) : HasUnits (x / y) (roundBinary (v * 2 ^ oneExponent) w) :=
  (Stands.div hx hy hfinite hw).unpack_pack

/-- A product with infinity is infinite or none at all. -/
theorem HasUnits.not_mul_lt (hx : HasUnits x v) (hxfinite : x.isFinite) (hy : HasUnits y w)
    (hyinfinite : ¬ y.isFinite) {z : Float} {u : Nat} (hz : HasUnits z u)
    (hu : u < 2 ^ infinityExponent) : ¬ x * y < z := by
  have hproduct : (x * y).toModel.unpack =
      (Float.Model.pack (x.toModel.unpack.mul .binary64 y.toModel.unpack)).unpack := rfl
  have hinfinite : y.toModel.unpack = .infinity .positive := by
    rw [isFinite_iff_unpack] at hyinfinite
    rw [HasUnits] at hy
    generalize y.toModel.unpack = b at hy hyinfinite
    cases hy with
    | infinite => rfl
    | zero => exact absurd rfl hyinfinite
    | finite => exact absurd rfl hyinfinite
  rw [isFinite_iff_unpack] at hxfinite
  rw [HasUnits] at hx
  rw [hinfinite] at hproduct
  generalize x.toModel.unpack = a at hx hxfinite hproduct
  cases hx with
  | infinite => cases hxfinite
  | zero sign =>
      replace hproduct : (x * y).toModel.unpack = (Float.Model.pack .notANumber).unpack := hproduct
      rw [lt_iff_unpack, hproduct, unpack_pack_notANumber]
      exact Bool.false_ne_true
  | finite =>
      have hunits : HasUnits (x * y) (2 ^ infinityExponent) := by
        rw [HasUnits, hproduct]
        exact (Stands.infinite (Nat.le_refl _)).unpack_pack
      rw [hunits.lt_iff hz hu]
      omega

theorem hasUnits_one : HasUnits (Float.ofBits 0x3FF0000000000000) (2 ^ oneExponent) := by
  have hunpack : (Float.ofBits 0x3FF0000000000000).toModel.unpack =
      .finite .positive (2 ^ 52) (-52) (by decide) := by rfl
  obtain ⟨k, hk⟩ : ∃ k, oneExponent = 52 + k := ⟨1022, by rw [oneExponent]⟩
  have hexponent : (-52 : Int) = k - 1074 := by
    rw [oneExponent] at hk
    omega
  rw [HasUnits, hunpack, hk, Nat.pow_add]
  exact .finite k hexponent (by decide) (.inl (by decide))

theorem units_lt_infinity {n : Nat} (hn : n ≤ 2 ^ 53) :
    n * 2 ^ oneExponent < 2 ^ infinityExponent := by
  have hpower : 2 ^ (53 + oneExponent) < 2 ^ infinityExponent :=
    Nat.pow_lt_pow_right (by decide) (by rw [oneExponent, infinityExponent]; decide)
  rw [Nat.pow_add] at hpower
  exact Nat.lt_of_le_of_lt (Nat.mul_le_mul_right _ hn) hpower

theorem hasUnits_ofNat (n : Nat) :
    HasUnits (Float.ofNat n) (roundBinary (n * 2 ^ oneExponent) 1) := by
  change HasUnits (Float.ofScientific n false 0) _
  unfold Float.ofScientific
  split
  case isTrue hsmall =>
    have hinteger : HasUnits n.toUInt64.toFloat (roundBinary (n * 2 ^ oneExponent) 1) := by
      have hn : n.toUInt64.toNat = n := Nat.mod_eq_of_lt (by omega)
      have hunpack : n.toUInt64.toFloat.toModel.unpack =
          (Float.Model.pack (UnpackedFloat.normalize .binary64 n.toUInt64.toNat 0
            .positive)).unpack := rfl
      rw [HasUnits, hunpack, hn]
      exact (stands_normalize n oneExponent (by rw [oneExponent]; rfl)).unpack_pack
    have hexact := roundBinary_exact hsmall.1.le oneExponent
    have hone := units_lt_infinity (show 1 ≤ 2 ^ 53 by decide)
    rw [Nat.one_mul] at hone
    rw [hexact] at hinteger ⊢
    have hproduct := hinteger.mul hasUnits_one
      ⟨hinteger.isFinite (units_lt_infinity hsmall.1.le), hasUnits_one.isFinite hone⟩
    rw [roundBinary_mul_self (Nat.two_pow_pos oneExponent), hexact] at hproduct
    exact hproduct
  case isFalse hlarge =>
    have hn : n ≠ 0 := by omega
    change Stands (Float.Model.pack (UnpackedFloat.ofScientific .binary64 n 0)).unpack _
    apply Stands.unpack_pack
    have hpower : (0 : Int) ≤ 2 ^ Format.binary64.exponentBits := by decide
    have hbits : Format.binary64.mantissaBits = 53 := rfl
    have hsign : (Sign.positive * Sign.positive) = .positive := rfl
    have hscale : 10 ^ (0 : Int).toNat = 1 := rfl
    rw [UnpackedFloat.ofScientific, dif_neg hn, if_neg (by decide), if_neg (by omega),
      if_pos (Int.le_refl 0), UnpackedFloat.mul, hsign, hscale, hbits, Nat.mul_one,
      Nat.shiftLeft_eq]
    obtain ⟨k, hk⟩ : ∃ k, oneExponent = 53 + k := ⟨1021, by rw [oneExponent]⟩
    have hexponent : -((53 : Nat) : Int) + 0 = k - (0 : Nat) - 1074 := by
      rw [oneExponent] at hk
      omega
    have hstands := stands_round_exact (m := n * 2 ^ 53) hexponent (.inl (by omega))
    rwa [Nat.mul_assoc, ← Nat.pow_add, ← hk] at hstands

end Floats

end FullText
