import FullText.Proofs.Decimal.Integers
import FullText.Proofs.Query.Acceptance
import FullText.Proofs.Query.Meaning

/-!
Numeric clauses as sets of integers. The text of a clause is read back, and then the two ends of
each of its ranges. A clause that compares a field with integers holds of a number in the field
exactly when the comparison does; the integers are read as they were given, whatever their size.
-/

namespace FullText

/-! ### Ranges read back -/

/-- An end of a range as it is read back. -/
inductive Limit where
  /-- Below every number. -/
  | bottom
  /-- Above every number. -/
  | top
  | inclusive (n : Int)
  | exclusive (n : Int)
deriving DecidableEq, Repr

namespace Limit

/-- A parenthesis in front of a number excludes it. -/
def read? : List Char → Option Limit
  | ['-', 'i', 'n', 'f'] => some .bottom
  | ['+', 'i', 'n', 'f'] => some .top
  | '(' :: cs => (Decimal.readSigned? cs).map .exclusive
  | cs => (Decimal.readSigned? cs).map .inclusive

/-- A number lies above the limit of a range, seen as its low end. -/
def Before (x : Int) : Limit → Prop
  | .bottom => True
  | .top => False
  | .inclusive n => n ≤ x
  | .exclusive n => n < x

/-- A number lies below the limit of a range, seen as its high end. -/
def After (x : Int) : Limit → Prop
  | .bottom => False
  | .top => True
  | .inclusive n => x ≤ n
  | .exclusive n => x < n

end Limit

/-- A range of numbers. -/
structure NumberRange where
  low : Limit
  high : Limit
deriving DecidableEq, Repr

namespace NumberRange

/-- Two limits with a space between them. -/
def read? (bounds : String) : Option NumberRange := do
  let low ← Limit.read? (bounds.toList.takeWhile (· != ' '))
  let high ← Limit.read? ((bounds.toList.dropWhile (· != ' ')).drop 1)
  return { low, high }

def Contains (range : NumberRange) (x : Int) : Prop :=
  range.low.Before x ∧ range.high.After x

end NumberRange

/-- The truth values belong to a document with a number in a field: a range on the field that can be
read holds exactly when the number lies in it. Nothing is said of anything else. -/
def HoldsNumber (name : String) (x : Int) (truth : String → Leaf → Prop) : Prop :=
  ∀ bounds range, NumberRange.read? bounds = some range →
    (truth name (.range bounds) ↔ range.Contains x)

theorem exists_holdsNumber (name : String) (x : Int) : ∃ truth, HoldsNumber name x truth := by
  let truth : String → Leaf → Prop
    | _, .range bounds => ∃ range, NumberRange.read? bounds = some range ∧ range.Contains x
    | _, _ => False
  refine ⟨truth, fun bounds range hread => ?_⟩
  simp [truth, hread]

/-! ### Comparisons with integers -/

/-- What an operator asks of a number and the integer that it is compared with. -/
def Operator.relation? : Operator → Option (Int → Int → Prop)
  | .eq => some fun x n => x = n
  | .ne => some fun x n => x ≠ n
  | .gt => some fun x n => n < x
  | .gte => some fun x n => n ≤ x
  | .lt => some fun x n => x < n
  | .lte => some fun x n => x ≤ n
  | .like => none

/-- A test that compares a field with integers, and the numbers that it selects. -/
inductive Test.Selects : Test → (Int → Prop) → Prop
  | compare {operator : Operator} {relation : Int → Int → Prop} {v : Value} {n : Int}
      (hrelation : operator.relation? = some relation) (hv : v.resolved = .int n) :
      Selects (.compare operator v) fun x => relation x n
  | isIn {values : List Value} {ns : List Int} (hne : values ≠ [])
      (hvalues : List.Forall₂ (fun v n => v.resolved = .int n) values ns) :
      Selects (.isIn values) fun x => x ∈ ns
  | notIn {values : List Value} {ns : List Int} (hne : values ≠ [])
      (hvalues : List.Forall₂ (fun v n => v.resolved = .int n) values ns) :
      Selects (.notIn values) fun x => x ∉ ns
  | between {low high : Value} {m n : Int} (hlow : low.resolved = .int m)
      (hhigh : high.resolved = .int n) :
      Selects (.between low high) fun x => m ≤ x ∧ x ≤ n
  | notBetween {low high : Value} {m n : Int} (hlow : low.resolved = .int m)
      (hhigh : high.resolved = .int n) :
      Selects (.notBetween low high) fun x => ¬ (m ≤ x ∧ x ≤ n)
  | isNull : Selects .isNull fun _ => False
  | notNull : Selects .notNull fun _ => True

theorem Value.numeral?_int {v : Value} {n : Int} (hv : v.resolved = .int n) :
    v.numeral? = some (.int n) := by
  rw [Value.numeral?, hv]

/-! ### Written limits -/

/-- A text without spaces that is read as a limit. -/
def Limit.Writes (limit : Limit) (s : String) : Prop :=
  Limit.read? s.toList = some limit ∧ ∀ c ∈ s.toList, (c != ' ') = true

private theorem ne_space_of_numeric {cs : List Char} (hcs : AllNumeric cs) :
    ∀ c ∈ cs, (c != ' ') = true := by
  intro c hc
  rw [bne_iff_ne]
  rintro rfl
  exact absurd (hcs ' ' hc) (by decide)

namespace Limit.Writes

theorem bottom : Limit.bottom.Writes "-inf" :=
  ⟨rfl, by simp⟩

theorem top : Limit.top.Writes "+inf" :=
  ⟨rfl, by simp⟩

theorem inclusive (n : Int) : (Limit.inclusive n).Writes (Numeral.int n).text := by
  have hread := Decimal.readSigned?_toString n
  refine ⟨?_, ne_space_of_numeric (intText_numeric n)⟩
  rw [Numeral.text]
  generalize (toString n).toList = cs at hread
  -- No integer is written like infinity or with a parenthesis.
  unfold Limit.read?
  split
  · exact absurd hread (by simp [Decimal.readSigned?, Decimal.readNat?])
  · exact absurd hread (by simp [Decimal.readSigned?, Decimal.readNat?])
  · exact absurd hread (by simp [Decimal.readSigned?, Decimal.readNat?])
  · rw [hread, Option.map_some]

theorem exclusive (n : Int) : (Limit.exclusive n).Writes ("(" ++ (Numeral.int n).text) := by
  have htext : ("(" ++ (Numeral.int n).text).toList = '(' :: (toString n).toList := by
    rw [String.toList_append]
    rfl
  rw [Writes, htext]
  refine ⟨?_, List.forall_mem_cons.mpr ⟨by decide, ne_space_of_numeric (intText_numeric n)⟩⟩
  rw [Limit.read?, Decimal.readSigned?_toString, Option.map_some]

end Limit.Writes

/-- Two written limits with a space between them are read as the range between them. -/
theorem NumberRange.read?_between {low high : String} {l h : Limit} (hlow : l.Writes low)
    (hhigh : h.Writes high) :
    NumberRange.read? (low ++ " " ++ high) = some { low := l, high := h } := by
  have htext : (low ++ " " ++ high).toList = low.toList ++ ' ' :: high.toList := by
    simp only [String.toList_append, List.append_assoc]
    rfl
  have hspace : ((' ' : Char) != ' ') = false := by decide
  have hfront : (low ++ " " ++ high).toList.takeWhile (· != ' ') = low.toList := by
    rw [htext, List.takeWhile_append_of_pos hlow.2, List.takeWhile_cons, hspace]
    simp
  have hback : (low ++ " " ++ high).toList.dropWhile (· != ' ') = ' ' :: high.toList := by
    rw [htext, List.dropWhile_append_of_pos hlow.2, List.dropWhile_cons, hspace]
    simp
  rw [NumberRange.read?, hfront, hback, hlow.1, List.drop_one, List.tail_cons, hhigh.1]
  rfl

/-! ### Clauses as sets of integers -/

section Numbers

variable {name : String} {x : Int} {truth : String → Leaf → Prop}
  (hnumber : HoldsNumber name x truth)
include hnumber

theorem holds_between {low high : String} {l h : Limit} (hlow : l.Writes low)
    (hhigh : h.Writes high) : truth name (.between low high) ↔ l.Before x ∧ h.After x :=
  hnumber _ _ (NumberRange.read?_between hlow hhigh)

/-- A range between a number and itself holds nothing but the number. -/
theorem holds_exactly (n : Int) :
    truth name (.between (Numeral.int n).text (Numeral.int n).text) ↔ x = n := by
  rw [holds_between hnumber (.inclusive n) (.inclusive n)]
  simp only [Limit.Before, Limit.After]
  omega

variable {sentinel : String} {sortable noIndex : Bool}

theorem holds_equals {v : Value} {n : Int} (hv : v.resolved = .int n) :
    (FieldType.numeric sortable noIndex).Equals (truth name) sentinel v ↔ x = n := by
  have hleaf : (FieldType.numeric sortable noIndex).equality? v =
      some (.between (Numeral.int n).text (Numeral.int n).text) := by
    rw [FieldType.equality?, Value.numeral?_int hv]
    rfl
  rw [FieldType.equals_scalar hleaf, holds_exactly hnumber]

theorem holds_hasOneOf {values : List Value} {ns : List Int}
    (hvalues : List.Forall₂ (fun v n => v.resolved = .int n) values ns) :
    (FieldType.numeric sortable noIndex).HasOneOf (truth name) values ↔ x ∈ ns := by
  have hleaves : List.Forall₂ (fun v (n : Int) =>
      (FieldType.numeric sortable noIndex).equality? v =
        some (.between (Numeral.int n).text (Numeral.int n).text)) values ns :=
    hvalues.imp fun v n hv => by
      rw [FieldType.equality?, Value.numeral?_int hv]
      rfl
  rw [FieldType.hasOneOf_iff hleaves]
  simp [holds_exactly hnumber]

omit hnumber in
theorem beside_int {v : Value} {n : Int} (hv : v.resolved = .int n) (range : String → Leaf) :
    Beside (truth name) v range ↔ truth name (range (Numeral.int n).text) := by
  rw [Beside, Value.numeral?_int hv]
  simp

theorem holds_compare {operator : Operator} {relation : Int → Int → Prop} {v : Value} {n : Int}
    (hrelation : operator.relation? = some relation) (hv : v.resolved = .int n) :
    (Test.compare operator v).Holds (truth name) sentinel (.numeric sortable noIndex) ↔
      relation x n := by
  cases operator with
  | eq =>
      obtain rfl := Option.some.inj hrelation
      exact holds_equals hnumber hv
  | ne =>
      obtain rfl := Option.some.inj hrelation
      exact not_congr (holds_equals hnumber hv)
  | gt =>
      obtain rfl := Option.some.inj hrelation
      rw [Test.Holds, beside_int hv, holds_between hnumber (.exclusive n) .top]
      simp [Limit.Before, Limit.After]
  | gte =>
      obtain rfl := Option.some.inj hrelation
      rw [Test.Holds, beside_int hv, holds_between hnumber (.inclusive n) .top]
      simp [Limit.Before, Limit.After]
  | lt =>
      obtain rfl := Option.some.inj hrelation
      rw [Test.Holds, beside_int hv, holds_between hnumber .bottom (.exclusive n)]
      simp [Limit.Before, Limit.After]
  | lte =>
      obtain rfl := Option.some.inj hrelation
      rw [Test.Holds, beside_int hv, holds_between hnumber .bottom (.inclusive n)]
      simp [Limit.Before, Limit.After]
  | like => cases hrelation

theorem holds_range {low high : Value} {m n : Int} (hlow : low.resolved = .int m)
    (hhigh : high.resolved = .int n) : Between (truth name) low high ↔ m ≤ x ∧ x ≤ n := by
  have hrange := holds_between hnumber (.inclusive m) (.inclusive n)
  rw [Between, Value.numeral?_int hlow, Value.numeral?_int hhigh]
  simpa [Limit.Before, Limit.After] using hrange

/-- Every number lies in the range without bounds. -/
theorem holds_unbounded : truth name (.between "-inf" "+inf") :=
  (holds_between hnumber .bottom .top).mpr ⟨trivial, trivial⟩

theorem Test.Selects.holds_iff {asked : Test} {selected : Int → Prop}
    (hasked : asked.Selects selected) :
    asked.Holds (truth name) sentinel (.numeric sortable noIndex) ↔ selected x := by
  cases hasked with
  | compare hrelation hv => exact holds_compare hnumber hrelation hv
  | isIn _ hvalues => exact holds_hasOneOf hnumber hvalues
  | notIn _ hvalues => exact not_congr (holds_hasOneOf hnumber hvalues)
  | between hlow hhigh => exact holds_range hnumber hlow hhigh
  | notBetween hlow hhigh => exact not_congr (holds_range hnumber hlow hhigh)
  | isNull => exact iff_of_false (not_not_intro (holds_unbounded hnumber)) id
  | notNull => exact iff_of_true (not_not_intro (holds_unbounded hnumber)) trivial

end Numbers

section Compiled

variable {asked : Test} {selected : Int → Prop}

/-- A test that compares with integers is no shorthand. -/
theorem Test.Selects.written_eq (hasked : asked.Selects selected) (column : String) :
    asked.written column = .ok asked := by
  cases hasked with
  | compare _ hv => exact Test.written_scalar (Value.scalar_of_numeral? (Value.numeral?_int hv))
  | isIn => rfl
  | notIn => rfl
  | between => rfl
  | notBetween => rfl
  | isNull => rfl
  | notNull => rfl

/-- Numeric fields accept tests that compare with integers. -/
theorem Test.Selects.accepted (hasked : asked.Selects selected) :
    FieldKind.numeric.AcceptsWritten asked := by
  have hnumber {v : Value} {n : Int} (hv : v.resolved = .int n) : v.IsNumber := by
    rw [Value.IsNumber, hv]
    trivial
  have hnumbers {values : List Value} {ns : List Int}
      (hvalues : List.Forall₂ (fun v n => v.resolved = .int n) values ns) :
      ∀ v ∈ values, v.IsNumber :=
    forall_mem_of_forall₂ hvalues.flip fun n v hv => hnumber hv
  cases hasked with
  | @compare operator _ _ _ hrelation hv =>
      cases operator with
      | eq => exact hnumber hv
      | ne => exact hnumber hv
      | like => cases hrelation
      | _ => exact ⟨rfl, hnumber hv⟩
  | isIn hne hvalues => exact ⟨hne, hnumbers hvalues⟩
  | notIn hne hvalues => exact ⟨hne, hnumbers hvalues⟩
  | between hlow hhigh => exact ⟨rfl, hnumber hlow, hnumber hhigh⟩
  | notBetween hlow hhigh => exact ⟨rfl, hnumber hlow, hnumber hhigh⟩
  | isNull => trivial
  | notNull => trivial

theorem Test.Selects.compiles (hasked : asked.Selects selected) (column name : String) :
    ∃ query, Query.ofNumericTest? column name asked = some (.ok query) :=
  Query.exists_ofNumericTest?_iff.mpr hasked.accepted

/-- A numeric clause selects the numbers that its test selects. Whatever the integers are, the test
compiles, and the text of its clause is read back as a formula that holds of a document exactly when
the test selects the number in the field. -/
theorem numbers_selected {schema : Schema} (config : Config) {column : String} {field : Field}
    (hfield : schema.resolve? column = some field) (hkind : field.kind = .numeric)
    (hname : Plain field.name) (hasked : asked.Selects selected) :
    ∃ query formula, Query.ofTest schema config column asked = .ok query ∧
      Formula.read? query.text = some formula ∧
      ∀ x truth, HoldsNumber field.name x truth → (formula.Holds truth ↔ selected x) := by
  obtain ⟨name, type⟩ := field
  cases type with
  | numeric sortable noIndex =>
      obtain ⟨query, hquery⟩ := hasked.compiles column name
      have hsays : query.Says name config.nullSentinel (.numeric sortable noIndex) asked :=
        ofNumericTest?_says hname hquery
      obtain ⟨formula, hread, hformula⟩ := read?_of_readsBack query hsays.1.readsBack
      refine ⟨query, formula, ?_, hread, ?_⟩
      · exact Query.ofTest_eq_ok hfield (hasked.written_eq column) hquery
      intro x truth hnumber
      rw [hformula truth, hsays.2 truth]
      exact hasked.holds_iff hnumber
  | _ => cases hkind

end Compiled

/-- An index of prices. -/
def prices : Schema :=
  { name := "prices", fields := [.numeric "price"] }

/-- Two prices are told apart that are the same floating-point number. -/
theorem close_prices_selected :
    ∃ formula, Formula.read? ("-(@price:[9007199254740993 9007199254740993] | " ++
        "@price:[-9007199254740992 -9007199254740992])") = some formula ∧
      (∀ x, ∃ truth, HoldsNumber "price" x truth) ∧
      ∀ x truth, HoldsNumber "price" x truth →
        (formula.Holds truth ↔ x ∉ [9007199254740993, -9007199254740992]) := by
  have hasked : (Test.notIn [.int 9007199254740993, .int (-9007199254740992)]).Selects
      fun x => x ∉ [9007199254740993, -9007199254740992] :=
    .notIn (List.cons_ne_nil _ _) (.cons rfl (.cons rfl .nil))
  have hfield : prices.resolve? "price" = some (.numeric "price") := rfl
  obtain ⟨query, formula, hquery, hread, hholds⟩ :=
    numbers_selected {} hfield rfl (by decide) hasked
  obtain rfl := Except.ok.inj hquery
  exact ⟨formula, hread, exists_holdsNumber "price", hholds⟩

end FullText
