import FullText.Proofs.Query.Operands
import FullText.Proofs.Value

/-!
Tests rewritten inside clauses. If tests compile alike, so do all clauses in which they stand in
each other's place, however deep. One such rewriting resolves the operands of a test: enumerations
are replaced by what they stand for, and nothing comes of the test that would not have come of it
before.
-/

namespace FullText

/-! ### Clauses with other tests -/

mutual

/-- A predicate with some of its tests rewritten. -/
inductive Predicate.Rewritten (R : Test → Test → Prop) : Predicate → Predicate → Prop
  | same (predicate : Predicate) : Predicate.Rewritten R predicate predicate
  | test (column : String) {asked other : Test} (htest : R asked other) :
      Predicate.Rewritten R (.test column asked) (.test column other)
  | nested {clauses others : List (Joined Predicate)}
      (hclauses : ClausesRewritten R clauses others) :
      Predicate.Rewritten R (.nested clauses) (.nested others)

/-- Clauses with some of their tests rewritten. They are joined as before. -/
inductive ClausesRewritten (R : Test → Test → Prop) :
    List (Joined Predicate) → List (Joined Predicate) → Prop
  | nil : ClausesRewritten R [] []
  | cons (junction : Junction) {predicate other : Predicate}
      {clauses others : List (Joined Predicate)}
      (hpredicate : Predicate.Rewritten R predicate other)
      (hclauses : ClausesRewritten R clauses others) :
      ClausesRewritten R ({ junction, predicate } :: clauses)
        ({ junction, predicate := other } :: others)

end

namespace Query

variable {schema : Schema} {config : Config} {R : Test → Test → Prop}

/-- Related tests of a column compile to the same query or end in the same error. -/
def CompilesAlike (schema : Schema) (config : Config) (R : Test → Test → Prop) : Prop :=
  ∀ column asked other, R asked other →
    ofTest schema config column asked = ofTest schema config column other

mutual

theorem ofPredicate?_rewritten (halike : CompilesAlike schema config R)
    {predicate other : Predicate} (hrewritten : predicate.Rewritten R other) :
    ofPredicate? schema config predicate = ofPredicate? schema config other := by
  cases hrewritten with
  | same => rfl
  | test column htest => rw [ofPredicate?, ofPredicate?, halike column _ _ htest]
  | nested hclauses => rw [ofPredicate?, ofPredicate?, partsOf_rewritten halike hclauses]

theorem partsOf_rewritten (halike : CompilesAlike schema config R)
    {clauses others : List (Joined Predicate)} (hrewritten : ClausesRewritten R clauses others) :
    partsOf schema config clauses = partsOf schema config others := by
  cases hrewritten with
  | nil => rfl
  | cons junction hpredicate hclauses =>
      rw [partsOf, partsOf, partOf?, partOf?, ofPredicate?_rewritten halike hpredicate,
        partsOf_rewritten halike hclauses]

end

/-- Clauses whose tests are rewritten to tests that compile alike compile alike. -/
theorem ofClauses_rewritten (halike : CompilesAlike schema config R) {clauses others : List Clause}
    (hrewritten : ClausesRewritten R clauses others) :
    ofClauses schema config clauses = ofClauses schema config others := by
  rw [ofClauses, ofClauses, partsOf_rewritten halike hrewritten]

end Query

/-! ### Tests with resolved operands -/

/-- The test with its operands resolved. -/
def Test.resolved : Test → Test
  | .compare operator value => .compare operator value.resolved
  | .isIn values => .isIn (Value.resolvedItems values)
  | .notIn values => .notIn (Value.resolvedItems values)
  | .isNull => .isNull
  | .notNull => .notNull
  | .between low high => .between low.resolved high.resolved
  | .notBetween low high => .notBetween low.resolved high.resolved
  | .near lon lat radius unit => .near lon lat radius unit
  | .unknown symbol value => .unknown symbol value.resolved

@[simp]
theorem scalarOperand_resolved (column : String) (v : Value) :
    scalarOperand column v.resolved = scalarOperand column v := by
  rw [scalarOperand, scalarOperand, Value.render?_resolved]

@[simp]
theorem numericOperand_resolved (column : String) (v : Value) :
    numericOperand column v.resolved = numericOperand column v := by
  rw [numericOperand, numericOperand, Value.resolved_resolved]

theorem operands_resolved {α : Type} {read : Value → Except Error α}
    (hread : ∀ v, read v.resolved = read v) (column : String) (values : List Value) :
    operands read column (Value.resolvedItems values) = operands read column values := by
  rw [Value.resolvedItems_eq_map, operands, operands, List.isEmpty_map, List.mapM_map]
  simp only [Function.comp_def, hread]

namespace Test

theorem operatorName_resolved (asked : Test) :
    asked.resolved.operatorName = asked.operatorName := by
  cases asked <;> rfl

/-- Resolved operands are written out as the operands that they were. -/
theorem written_resolved (column : String) (asked : Test) :
    (asked.resolved.written column).map resolved = (asked.written column).map resolved := by
  cases asked with
  | compare operator v =>
      rcases v.null_or_list_or_single with hnull | ⟨values, hlist⟩ | hsingle
      · cases operator <;> simp [written, resolved, Value.resolved, Except.map, hnull]
      · cases operator <;> simp [written, resolved, Value.resolved, Except.map, hlist]
      · have hresolved :
            v.resolved.resolved ≠ .null ∧ ∀ values, v.resolved.resolved ≠ .list values := by
          rwa [Value.resolved_resolved]
        rw [resolved, written_scalar hsingle, written_scalar hresolved]
        simp [resolved, Except.map]
  | _ => simp [resolved, written, Except.map]

end Test

namespace Query

variable (config : Config) (column name : String) (asked : Test)

theorem ofTextTest?_resolved :
    ofTextTest? config column name asked.resolved = ofTextTest? config column name asked := by
  have hoperands := operands_resolved (scalarOperand_resolved column) column
  cases asked with
  | compare operator v => cases operator <;> simp [ofTextTest?, Test.resolved]
  | _ => simp [ofTextTest?, Test.resolved, hoperands]

theorem ofNumericTest?_resolved :
    ofNumericTest? column name asked.resolved = ofNumericTest? column name asked := by
  have hoperands := operands_resolved (numericOperand_resolved column) column
  cases asked with
  | compare operator v => cases operator <;> simp [ofNumericTest?, Test.resolved]
  | _ => simp [ofNumericTest?, Test.resolved, hoperands, between]

theorem ofTagTest?_resolved :
    ofTagTest? config column name asked.resolved = ofTagTest? config column name asked := by
  have hoperands := operands_resolved (scalarOperand_resolved column) column
  cases asked with
  | compare operator v => cases operator <;> simp [ofTagTest?, Test.resolved]
  | _ => simp [ofTagTest?, Test.resolved, hoperands]

theorem ofGeoTest?_resolved :
    ofGeoTest? column name asked.resolved = ofGeoTest? column name asked := by
  cases asked <;> rfl

theorem ofFieldTest?_resolved (field : Field) :
    ofFieldTest? config column field asked.resolved = ofFieldTest? config column field asked := by
  simp only [ofFieldTest?, ofTextTest?_resolved, ofNumericTest?_resolved, ofTagTest?_resolved,
    ofGeoTest?_resolved]

/-- What a field makes of a test that is written out. -/
def ofWritten (field : Field) (written : Test) : Except Error Query :=
  match ofFieldTest? config column field written with
  | some query => query
  | none => throw (.unsupportedOperator column written.operatorName field.kind)

theorem ofWritten_resolved (field : Field) :
    ofWritten config column field asked.resolved = ofWritten config column field asked := by
  rw [ofWritten, ofWritten, ofFieldTest?_resolved, Test.operatorName_resolved]

variable (schema : Schema)

theorem ofTest_eq_ofWritten : ofTest schema config column asked =
    schema.resolve column >>= fun field =>
      (asked.written column).map Test.resolved >>= ofWritten config column field := by
  rw [ofTest]
  apply bind_congr
  intro field
  cases asked.written column with
  | error e => rfl
  | ok written => exact (ofWritten_resolved config column written field).symm

/-- All that matters of a test is what it is written out to, with the operands resolved. -/
theorem ofTest_eq_of_written {asked other : Test}
    (hwritten :
      (asked.written column).map Test.resolved = (other.written column).map Test.resolved) :
    ofTest schema config column asked = ofTest schema config column other := by
  rw [ofTest_eq_ofWritten, ofTest_eq_ofWritten, hwritten]

theorem ofTest_resolved :
    ofTest schema config column asked.resolved = ofTest schema config column asked :=
  ofTest_eq_of_written config column schema (asked.written_resolved column)

end Query

end FullText
