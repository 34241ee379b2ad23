import FullText.Proofs.Decimal.Units
import FullText.Proofs.Query.Operands
import FullText.Proofs.Value
import Mathlib.Data.List.DropRight
import Mathlib.Data.List.TakeWhile

/-!
Which tests compile. Every kind of field supports tests of its own, with operands of a certain form:
a text is compared with scalars, a number with numbers and a point with a circle on the earth. A
test compiles exactly when its column names a field whose kind accepts it; everything else is an
error.
-/

namespace FullText

/-! ### Operands -/

/-- A value that stands for a scalar. -/
def Value.IsScalar (v : Value) : Prop :=
  match v.resolved with
  | .bool _ | .int _ | .float _ | .text _ => True
  | _ => False

/-- A value that stands for a finite number, or for a text that names one between blanks. -/
def Value.IsNumber (v : Value) : Prop :=
  match v.resolved with
  | .int _ => True
  | .float x => x.isFinite
  | .text s => ∃ x, Decimal.readFloat? (Text.trim s) = some x ∧ x.isFinite
  | _ => False

theorem exists_scalarOperand_iff (column : String) {v : Value} :
    (∃ s, scalarOperand column v = .ok s) ↔ v.IsScalar := by
  simp only [scalarOperand_eq_ok_iff, Value.render?, Value.IsScalar]
  cases v.resolved with
  | bool b => simp
  | int n => simp
  | float x => simp
  | text s => simp
  | null => simp
  | list items => simp
  | member name => simp
  | backed name backing => simp

theorem exists_numericOperand_iff (column : String) {v : Value} :
    (∃ n, numericOperand column v = .ok n) ↔ v.IsNumber := by
  -- What is no integer is read once more, from its resolved form.
  have hread : v.resolved.toFloat? = v.toFloat? := v.toFloat?_resolved
  rw [Value.toFloat?.eq_def v] at hread
  simp only [numericOperand_eq_ok_iff, Value.numeral?, Value.IsNumber]
  cases hv : v.resolved with
  | int n => simp
  | text s =>
      simp only [hv] at hread
      simp [hread, Option.filter_filter, and_comm]
  | _ =>
      simp only [hv] at hread
      simp [hread]

/-- Something is left of a text without the characters of a class at its ends exactly when it has
another character. -/
theorem Text.strip_ne_empty_iff {p : Char → Bool} {s : String} :
    Text.strip p s ≠ "" ↔ ∃ c ∈ s.toList, p c = false := by
  have hlist (cs : List Char) : Text.stripList p cs = [] ↔ ∀ c ∈ cs, p c = true := by
    change (cs.dropWhile p).rdropWhile p = [] ↔ _
    rw [List.rdropWhile_eq_nil_iff]
    constructor
    · intro hrest
      rw [← List.dropWhile_eq_nil_iff]
      by_contra hne
      have hhead := List.head_dropWhile_not p hne
      rw [hrest _ (List.head_mem hne)] at hhead
      cases hhead
    · intro hall c hc
      exact hall c (List.dropWhile_subset p hc)
  have hempty : Text.strip p s = "" ↔ Text.stripList p s.toList = [] := by
    rw [Text.strip, ← String.toList_inj, String.toList_ofList, String.toList_empty]
  rw [ne_eq, hempty, hlist]
  simp

/-! ### Tests of fields -/

namespace FieldKind

/-- Fields of the kind are compared with values. -/
def IsCompared : FieldKind → Prop
  | .text | .tag | .numeric => True
  | .geo | .geoShape | .vector => False

/-- A value that fields of the kind are compared with. -/
def Takes : FieldKind → Value → Prop
  | .text, v | .tag, v => v.IsScalar
  | .numeric, v => v.IsNumber
  | .geo, _ | .geoShape, _ | .vector, _ => False

/-- A list of values that a field of the kind can be one of. -/
def TakesOneOf (kind : FieldKind) (values : List Value) : Prop :=
  values ≠ [] ∧ ∀ v ∈ values, kind.Takes v

/-- A value that a field of the kind can equal: null, a list of which it is one, or a value of its
own. -/
def TakesEqual (kind : FieldKind) (v : Value) : Prop :=
  match v.resolved with
  | .null => kind.IsCompared
  | .list values => kind.TakesOneOf values
  | _ => kind.Takes v

/-- The tests that fields of a kind accept. -/
def Accepts (kind : FieldKind) : Test → Prop
  | .compare .eq v | .compare .ne v => kind.TakesEqual v
  | .compare .like v => kind = .text ∧
      ∃ pattern, v.render? = some pattern ∧ ∃ c ∈ pattern.toList, c ≠ '%' ∧ c ≠ '*'
  | .compare .gt v | .compare .gte v | .compare .lt v | .compare .lte v =>
      kind = .numeric ∧ v.IsNumber
  | .isIn values | .notIn values => kind.TakesOneOf values
  | .isNull | .notNull => kind.IsCompared
  | .between low high | .notBetween low high => kind = .numeric ∧ low.IsNumber ∧ high.IsNumber
  | .near lon lat radius _ => kind = .geo ∧ (-180 ≤ lon ∧ lon ≤ 180) ∧ (-90 ≤ lat ∧ lat ≤ 90) ∧
      radius.isFinite ∧ 0 ≤ radius
  | .unknown .. => False

/-- The tests that fields of a kind accept once the shorthands are written out: an equality asks
for a single value. -/
def AcceptsWritten (kind : FieldKind) : Test → Prop
  | .compare .eq v | .compare .ne v => kind.Takes v
  | asked => kind.Accepts asked

variable {kind : FieldKind}

/-- An equality with neither null nor a list asks for a single value. -/
theorem takesEqual_iff_takes {v : Value}
    (hsingle : v.resolved ≠ .null ∧ ∀ values, v.resolved ≠ .list values) :
    kind.TakesEqual v ↔ kind.Takes v := by
  obtain ⟨hnull, hlist⟩ := hsingle
  unfold TakesEqual
  split
  · next hv => exact absurd hv hnull
  · next values hv => exact absurd hv (hlist values)
  · rfl

/-- A test is accepted exactly when it can be written out and is accepted then. -/
theorem accepts_iff_written (column : String) (asked : Test) :
    kind.Accepts asked ↔
      ∃ written, asked.written column = .ok written ∧ kind.AcceptsWritten written := by
  cases asked with
  | compare operator v =>
      rcases v.null_or_list_or_single with hnull | ⟨values, hlist⟩ | hsingle
      · cases operator <;>
          simp [Test.written, Accepts, AcceptsWritten, TakesEqual, Value.IsNumber, Value.render?,
            hnull]
      · cases operator <;>
          simp [Test.written, Accepts, AcceptsWritten, TakesEqual, Value.IsNumber, Value.render?,
            hlist]
      · rw [Test.written_scalar hsingle]
        cases operator with
        | eq => simp [Accepts, AcceptsWritten, takesEqual_iff_takes hsingle]
        | ne => simp [Accepts, AcceptsWritten, takesEqual_iff_takes hsingle]
        | _ => simp [AcceptsWritten]
  | _ => simp [Test.written, AcceptsWritten]

/-- A field that is compared with nothing is one of no values. -/
theorem not_takesOneOf (hkind : ¬ kind.IsCompared) (values : List Value) :
    ¬ kind.TakesOneOf values := by
  rintro ⟨hne, htakes⟩
  obtain ⟨v, hv⟩ := List.exists_mem_of_ne_nil values hne
  have hv := htakes v hv
  cases kind with
  | text => exact hkind trivial
  | tag => exact hkind trivial
  | numeric => exact hkind trivial
  | geo => exact hv
  | geoShape => exact hv
  | vector => exact hv

theorem not_acceptsWritten (hkind : kind = .geoShape ∨ kind = .vector) (asked : Test) :
    ¬ kind.AcceptsWritten asked := by
  have hcompared : ¬ kind.IsCompared := by
    rcases hkind with rfl | rfl <;> exact id
  cases asked with
  | compare operator v =>
      rcases hkind with rfl | rfl <;> cases operator <;> simp [AcceptsWritten, Accepts, Takes]
  | isIn values => exact not_takesOneOf hcompared values
  | notIn values => exact not_takesOneOf hcompared values
  | isNull => exact hcompared
  | notNull => exact hcompared
  | _ => rcases hkind with rfl | rfl <;> simp [AcceptsWritten, Accepts]

end FieldKind

/-! ### Tests that compile -/

namespace Query

open FieldKind (Accepts AcceptsWritten Takes TakesOneOf IsCompared)

/-- The operands of a membership are read if there are any and each of them is read. -/
theorem exists_operands_iff {kind : FieldKind} {α : Type} {read : Value → Except Error α}
    (hread : ∀ v, (∃ item, read v = .ok item) ↔ kind.Takes v) {column : String}
    {values : List Value} :
    (∃ items, operands read column values = .ok items) ↔ kind.TakesOneOf values := by
  simp only [operands_eq_ok_iff, exists_and_left, exists_forall₂_iff, hread, TakesOneOf]

variable {config : Config} {column name : String} {asked : Test}

theorem exists_texts_iff {kind : FieldKind} (hkind : kind = .text ∨ kind = .tag) (column : String)
    (values : List Value) :
    (∃ texts, operands (scalarOperand column) column values = .ok texts) ↔
      kind.TakesOneOf values := by
  apply exists_operands_iff
  intro v
  rcases hkind with rfl | rfl
  · exact exists_scalarOperand_iff column
  · exact exists_scalarOperand_iff column

/-- A pattern needs something besides wildcards. -/
theorem exists_like_iff {v : Value} :
    (∃ query, ofTextTest? config column name (.compare .like v) = some (.ok query)) ↔
      ∃ pattern, v.render? = some pattern ∧ ∃ c ∈ pattern.toList, c ≠ '%' ∧ c ≠ '*' := by
  have hwildcards (pattern : String) : (∃ c ∈ pattern.toList, c ≠ '%' ∧ c ≠ '*') ↔
      Text.strip (fun c => c == '%' || c == '*') pattern ≠ "" := by
    rw [Text.strip_ne_empty_iff]
    simp
  simp only [ofTextTest?, Option.some.injEq, bind_eq_ok_iff, scalarOperand_eq_ok_iff, hwildcards]
  rw [exists_comm]
  apply exists_congr
  intro pattern
  rw [exists_and_left]
  apply and_congr_right
  intro _
  split
  case isTrue hstem => exact iff_of_false nofun (not_not_intro hstem)
  case isFalse hstem => exact iff_of_true ⟨_, rfl⟩ hstem

theorem exists_ofTextTest?_iff :
    (∃ query, ofTextTest? config column name asked = some (.ok query)) ↔
      AcceptsWritten .text asked := by
  have htexts := exists_texts_iff (.inl rfl : FieldKind.text = .text ∨ FieldKind.text = .tag) column
  cases asked with
  | compare operator v =>
      cases operator with
      | eq => simp [ofTextTest?, AcceptsWritten, Takes, exists_scalarOperand_iff]
      | ne => simp [ofTextTest?, AcceptsWritten, Takes, exists_scalarOperand_iff]
      | like => exact exists_like_iff.trans (and_iff_right rfl).symm
      | _ => simp [ofTextTest?, AcceptsWritten, Accepts]
  | isIn values => simp [ofTextTest?, AcceptsWritten, Accepts, htexts]
  | notIn values => simp [ofTextTest?, AcceptsWritten, Accepts, htexts]
  | _ => simp [ofTextTest?, AcceptsWritten, Accepts, IsCompared]

theorem exists_ofTagTest?_iff :
    (∃ query, ofTagTest? config column name asked = some (.ok query)) ↔
      AcceptsWritten .tag asked := by
  have htexts := exists_texts_iff (.inr rfl : FieldKind.tag = .text ∨ FieldKind.tag = .tag) column
  cases asked with
  | compare operator v =>
      cases operator with
      | eq => simp [ofTagTest?, AcceptsWritten, Takes, exists_scalarOperand_iff]
      | ne => simp [ofTagTest?, AcceptsWritten, Takes, exists_scalarOperand_iff]
      | _ => simp [ofTagTest?, AcceptsWritten, Accepts]
  | isIn values => simp [ofTagTest?, AcceptsWritten, Accepts, htexts]
  | notIn values => simp [ofTagTest?, AcceptsWritten, Accepts, htexts]
  | _ => simp [ofTagTest?, AcceptsWritten, Accepts, IsCompared]

theorem exists_between_iff {low high : Value} :
    (∃ query, between column name low high = .ok query) ↔ low.IsNumber ∧ high.IsNumber := by
  rw [← exists_numericOperand_iff column, ← exists_numericOperand_iff column]
  constructor
  · rintro ⟨query, hquery⟩
    obtain ⟨m, hm, hquery⟩ := bind_eq_ok_iff.mp hquery
    obtain ⟨n, hn, -⟩ := bind_pure_eq_ok_iff.mp hquery
    exact ⟨⟨m, hm⟩, n, hn⟩
  · rintro ⟨⟨m, hm⟩, n, hn⟩
    exact ⟨_, bind_eq_ok_iff.mpr ⟨m, hm, bind_pure_eq_ok_iff.mpr ⟨n, hn, rfl⟩⟩⟩

theorem exists_ofNumericTest?_iff :
    (∃ query, ofNumericTest? column name asked = some (.ok query)) ↔
      AcceptsWritten .numeric asked := by
  have hnumbers {values : List Value} :
      (∃ numbers, operands (numericOperand column) column values = .ok numbers) ↔
        TakesOneOf .numeric values :=
    exists_operands_iff fun v => exists_numericOperand_iff column
  cases asked with
  | compare operator v =>
      cases operator with
      | like => simp [ofNumericTest?, AcceptsWritten, Accepts]
      | _ => simp [ofNumericTest?, AcceptsWritten, Accepts, Takes, exists_numericOperand_iff]
  | isIn values => simp [ofNumericTest?, AcceptsWritten, Accepts, hnumbers]
  | notIn values => simp [ofNumericTest?, AcceptsWritten, Accepts, hnumbers]
  | between low high => simp [ofNumericTest?, AcceptsWritten, Accepts, exists_between_iff]
  | notBetween low high => simp [ofNumericTest?, AcceptsWritten, Accepts, exists_between_iff]
  | _ => simp [ofNumericTest?, AcceptsWritten, Accepts, IsCompared]

theorem exists_ofGeoTest?_iff :
    (∃ query, ofGeoTest? column name asked = some (.ok query)) ↔ AcceptsWritten .geo asked := by
  cases asked with
  | near lon lat radius unit =>
      have hradius : (radius.isFinite ∧ 0 ≤ radius) ↔
          ¬ ((!radius.isFinite || decide (radius < 0)) = true) := by
        cases hfinite : radius.isFinite with
        | false => simp
        | true => simp [not_neg_iff hfinite]
      have hcoordinates : ((-180 ≤ lon ∧ lon ≤ 180) ∧ (-90 ≤ lat ∧ lat ≤ 90)) ↔
          ¬ ((!inRange (-180) 180 lon || !inRange (-90) 90 lat) = true) := by
        simp [inRange]
      have haccepts : AcceptsWritten .geo (.near lon lat radius unit) ↔
          ((-180 ≤ lon ∧ lon ≤ 180) ∧ (-90 ≤ lat ∧ lat ≤ 90)) ∧ radius.isFinite ∧ 0 ≤ radius :=
        (and_iff_right rfl).trans and_assoc.symm
      rw [haccepts, hcoordinates, hradius]
      unfold ofGeoTest?
      simp only [Option.some.injEq]
      split
      case isTrue houtside => exact iff_of_false nofun fun haccepts => haccepts.1 houtside
      case isFalse hinside =>
        split
        case isTrue hnegative => exact iff_of_false nofun fun haccepts => haccepts.2 hnegative
        case isFalse hlength => exact iff_of_true ⟨_, rfl⟩ ⟨hinside, hlength⟩
  | compare operator v => cases operator <;> simp [ofGeoTest?, AcceptsWritten, Accepts, Takes]
  | isIn values => exact iff_of_false nofun (FieldKind.not_takesOneOf id values)
  | notIn values => exact iff_of_false nofun (FieldKind.not_takesOneOf id values)
  | _ => simp [ofGeoTest?, AcceptsWritten, Accepts, IsCompared]

/-- A field makes a query of exactly the tests that its kind accepts. -/
theorem exists_ofFieldTest?_iff {field : Field} :
    (∃ query, ofFieldTest? config column field asked = some (.ok query)) ↔
      field.kind.AcceptsWritten asked := by
  obtain ⟨name, type⟩ := field
  cases type with
  | text => exact exists_ofTextTest?_iff
  | numeric => exact exists_ofNumericTest?_iff
  | tag => exact exists_ofTagTest?_iff
  | geo => exact exists_ofGeoTest?_iff
  | geoShape => exact iff_of_false nofun (FieldKind.not_acceptsWritten (.inl rfl) asked)
  | vector => exact iff_of_false nofun (FieldKind.not_acceptsWritten (.inr rfl) asked)

/-- A test on its own compiles exactly when its column names a field that accepts it. -/
theorem test_compiles_iff (schema : Schema) (config : Config) (junction : Junction)
    (column : String) (asked : Test) :
    (∃ query, ofClauses schema config [{ junction, predicate := .test column asked }] = .ok query) ↔
      ∃ field, schema.resolve? column = some field ∧ field.kind.Accepts asked := by
  rw [ofClauses_test, exists_map_eq_ok_iff]
  simp only [ofTest_eq_ok_iff]
  constructor
  · rintro ⟨query, field, hfield, written, hwritten, hquery⟩
    have haccepts := exists_ofFieldTest?_iff.mp ⟨query, hquery⟩
    exact ⟨field, hfield, (FieldKind.accepts_iff_written column asked).mpr
      ⟨written, hwritten, haccepts⟩⟩
  · rintro ⟨field, hfield, haccepts⟩
    obtain ⟨written, hwritten, haccepts⟩ := (FieldKind.accepts_iff_written column asked).mp haccepts
    obtain ⟨query, hquery⟩ := exists_ofFieldTest?_iff.mpr haccepts
    exact ⟨query, field, hfield, written, hwritten, hquery⟩

end Query

end FullText
