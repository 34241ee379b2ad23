import FullText.Query

/-!
The characters that numbers are written with. None of them closes a range or escapes anything, so
the bounds of a range can be read back up to its bracket.
-/

namespace FullText

/-- The characters of written numbers. -/
def isNumeric (c : Char) : Bool :=
  c.isDigit || ['.', '-', 'i', 'n', 'f', 'N', 'a'].contains c

/-- A text that holds nothing but characters of numbers. -/
def AllNumeric (cs : List Char) : Prop :=
  ∀ c ∈ cs, isNumeric c = true

instance (cs : List Char) : Decidable (AllNumeric cs) :=
  decidable_of_iff (cs.all isNumeric = true) List.all_eq_true

namespace AllNumeric

theorem nil : AllNumeric [] := by simp [AllNumeric]

theorem cons {c : Char} {cs : List Char} (hc : isNumeric c = true) (hcs : AllNumeric cs) :
    AllNumeric (c :: cs) := by
  simpa [AllNumeric, hc] using hcs

theorem append {cs ds : List Char} (hcs : AllNumeric cs) (hds : AllNumeric ds) :
    AllNumeric (cs ++ ds) := by
  intro c hc
  rcases List.mem_append.mp hc with h | h
  · exact hcs c h
  · exact hds c h

theorem take {cs : List Char} (hcs : AllNumeric cs) (n : Nat) : AllNumeric (cs.take n) :=
  fun c hc => hcs c (List.mem_of_mem_take hc)

theorem drop {cs : List Char} (hcs : AllNumeric cs) (n : Nat) : AllNumeric (cs.drop n) :=
  fun c hc => hcs c (List.mem_of_mem_drop hc)

theorem replicate_zero (n : Nat) : AllNumeric (List.replicate n '0') := by
  intro c hc
  rw [List.eq_of_mem_replicate hc]
  decide

theorem toDigits (n : Nat) : AllNumeric (Nat.toDigits 10 n) := by
  intro c hc
  rw [isNumeric, Nat.isDigit_of_mem_toDigits (by decide) (by decide) hc]
  rfl

end AllNumeric

/-- No character of a number ends a range or starts an escape. -/
theorem isNumeric_free (c : Char) (hc : isNumeric c = true) :
    (c == ']') = false ∧ c ≠ '\\' := by
  constructor
  · rw [beq_eq_false_iff_ne]
    rintro rfl
    exact absurd hc (by decide)
  · rintro rfl
    exact absurd hc (by decide)

namespace Decimal

private theorem positionalText_numeric (keepsFraction : Bool) (digits : List Char) (exponent : Int)
    (hdigits : AllNumeric digits) : AllNumeric (positionalText keepsFraction digits exponent) := by
  have hpoint : isNumeric '.' = true := by decide
  have hzero : isNumeric '0' = true := by decide
  unfold positionalText
  dsimp only
  split
  · refine (hdigits.append (.replicate_zero _)).append ?_
    cases keepsFraction with
    | false => exact .nil
    | true => exact .cons hpoint (.cons hzero .nil)
  · split
    · exact (hdigits.take _).append (.cons hpoint (hdigits.drop _))
    · exact .cons hzero (.cons hpoint ((AllNumeric.replicate_zero _).append hdigits))

/-- A number in a query is written with digits, a point and a sign, or as a word. -/
theorem text_numeric (x : Float) : AllNumeric (text x).toList := by
  unfold text
  split
  · decide
  · split
    · split <;> decide
    · unfold Layout.text
      rw [String.toList_ofList]
      apply AllNumeric.append
      · split
        · exact .nil
        · exact .cons (by decide) .nil
      · unfold Layout.magnitudeText
        split
        · exact positionalText_numeric _ _ _ (.cons (by decide) .nil)
        · simp only [plain, if_true]
          exact positionalText_numeric _ _ _ (.toDigits _)

end Decimal

/-- An integer is written with digits and a sign. -/
theorem intText_numeric (n : Int) : AllNumeric (toString n).toList := by
  rw [Int.toString_eq_repr, Int.repr_eq_if]
  split
  · rw [Nat.toList_repr]
    exact .toDigits _
  · rw [String.toList_append, Nat.toList_repr]
    exact .cons (by decide) (.toDigits _)

theorem Numeral.text_numeric (n : Numeral) : AllNumeric n.text.toList := by
  cases n with
  | int n => exact intText_numeric n
  | float x => exact Decimal.text_numeric x

end FullText
