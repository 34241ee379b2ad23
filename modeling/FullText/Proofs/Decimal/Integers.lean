import FullText.Decimal.Reading

/-!
Integers read back. The text that an integer is written as is read as that integer, however many
digits it takes.
-/

namespace FullText.Decimal

theorem readNat?_toDigits (n : Nat) : readNat? (Nat.toDigits 10 n) = some n := by
  have hdigits : (Nat.toDigits 10 n).all Char.isDigit = true :=
    List.all_eq_true.mpr fun c hc => Nat.isDigit_of_mem_toDigits (by decide) (by decide) hc
  have hsome : (Nat.toDigits 10 n).isEmpty = false := by
    simp [Nat.toDigits_ne_nil]
  rw [readNat?, hsome, hdigits, Nat.ofDigitChars_ten_toDigits]
  rfl

/-- Digits have no sign in front of them. -/
private theorem readSigned?_toDigits (n : Nat) :
    readSigned? (Nat.toDigits 10 n) = some (n : Int) := by
  have hread := readNat?_toDigits n
  have hdigit : ∀ c ∈ Nat.toDigits 10 n, c.isDigit = true := fun c hc =>
    Nat.isDigit_of_mem_toDigits (by decide) (by decide) hc
  generalize Nat.toDigits 10 n = cs at hread hdigit
  unfold readSigned?
  split
  · exact absurd (hdigit '-' List.mem_cons_self) (by decide)
  · exact absurd (hdigit '+' List.mem_cons_self) (by decide)
  · rw [hread]
    rfl

theorem readSigned?_toString (n : Int) : readSigned? (toString n).toList = some n := by
  rw [Int.toString_eq_repr, Int.repr_eq_if]
  split
  · next hn =>
    rw [Nat.toList_repr, readSigned?_toDigits, Int.toNat_of_nonneg hn]
  · next hn =>
    rw [String.toList_append, Nat.toList_repr]
    have hminus : readSigned? ("-".toList ++ Nat.toDigits 10 (-n).toNat) =
        some (-((-n).toNat : Int)) := by
      change (readNat? (Nat.toDigits 10 (-n).toNat)).map (fun m => -(m : Int)) = _
      rw [readNat?_toDigits]
      rfl
    rw [hminus, Int.toNat_of_nonneg (by omega), Int.neg_neg]

/-- An integer of 64 bits is read back as one. -/
theorem readInt64?_toString {n : Int} (hfits : fitsInt64 n = true) :
    readInt64? (toString n) = some n := by
  rw [readInt64?, readSigned?_toString]
  exact Option.filter_eq_some_iff.mpr ⟨rfl, hfits⟩

end FullText.Decimal
