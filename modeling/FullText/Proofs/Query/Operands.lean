import FullText.Proofs.Except
import FullText.Proofs.Schema.Columns
import FullText.Query.Compilation

/-!
The operands of predicates. Each reader of an operand succeeds exactly on the values that have the
wanted form, and then with the text or the number of the value.
-/

namespace FullText

/-- The number that an operand is, if it is a finite one. -/
def Value.numeral? (v : Value) : Option Numeral :=
  match v.resolved with
  | .int n => some (.int n)
  | other => (other.toFloat?.filter Float.isFinite).map .float

/-- Neither null nor a list has a text. -/
theorem Value.scalar_of_render? {v : Value} {s : String} (h : v.render? = some s) :
    v.resolved ≠ .null ∧ ∀ values, v.resolved ≠ .list values := by
  constructor
  · intro hnull
    simp [Value.render?, hnull] at h
  · intro values hlist
    simp [Value.render?, hlist] at h

/-- Neither null nor a list is a number. -/
theorem Value.scalar_of_numeral? {v : Value} {n : Numeral} (h : v.numeral? = some n) :
    v.resolved ≠ .null ∧ ∀ values, v.resolved ≠ .list values := by
  constructor
  · intro hnull
    simp [Value.numeral?, Value.toFloat?, Value.resolved, hnull] at h
  · intro values hlist
    simp [Value.numeral?, Value.toFloat?, Value.resolved, hlist] at h

/-- A value stands for null, for a list or for something single. -/
theorem Value.null_or_list_or_single (v : Value) : v.resolved = .null ∨
    (∃ values, v.resolved = .list values) ∨
      v.resolved ≠ .null ∧ ∀ values, v.resolved ≠ .list values := by
  by_cases hnull : v.resolved = .null
  · exact .inl hnull
  by_cases hlist : ∃ values, v.resolved = .list values
  · exact .inr (.inl hlist)
  · exact .inr (.inr ⟨hnull, not_exists.mp hlist⟩)

theorem scalarOperand_eq_ok_iff {column : String} {v : Value} {s : String} :
    scalarOperand column v = .ok s ↔ v.render? = some s := by
  unfold scalarOperand
  cases v.render? with
  | none => simp
  | some text => simp

theorem numericOperand_eq_ok_iff {column : String} {v : Value} {n : Numeral} :
    numericOperand column v = .ok n ↔ v.numeral? = some n := by
  unfold numericOperand Value.numeral?
  cases v.resolved with
  | int m => simp
  | _ =>
      dsimp only
      generalize Value.toFloat? _ = number
      cases number with
      | none => simp
      | some x => cases hfinite : x.isFinite <;> simp [hfinite]

theorem operands_eq_ok_iff {α : Type} {read : Value → Except Error α} {column : String}
    {values : List Value} {items : List α} :
    operands read column values = .ok items ↔
      values ≠ [] ∧ List.Forall₂ (fun v item => read v = .ok item) values items := by
  unfold operands
  cases values with
  | nil => simp
  | cons v values =>
      rw [List.isEmpty_cons, if_neg Bool.false_ne_true, mapM_eq_ok_iff]
      exact (and_iff_right (List.cons_ne_nil v values)).symm

/-! ### Tests on their way to a query -/

/-- A comparison with a scalar is no shorthand. -/
theorem Test.written_scalar {column : String} {operator : Operator} {v : Value}
    (hscalar : v.resolved ≠ .null ∧ ∀ values, v.resolved ≠ .list values) :
    (Test.compare operator v).written column = .ok (.compare operator v) := by
  obtain ⟨hnull, hlist⟩ := hscalar
  unfold Test.written
  dsimp only
  split
  all_goals first | rfl | exact absurd ‹_› hnull | exact absurd ‹_› (hlist _)

/-- A test compiles to what the field that its column names makes of it. -/
theorem Query.ofTest_eq_ok_iff {schema : Schema} {config : Config} {column : String} {asked : Test}
    {query : Query} :
    Query.ofTest schema config column asked = .ok query ↔
      ∃ field, schema.resolve? column = some field ∧ ∃ written, asked.written column = .ok written ∧
        Query.ofFieldTest? config column field written = some (.ok query) := by
  unfold Query.ofTest
  simp only [bind_eq_ok_iff, Schema.resolve_eq_ok_iff]
  refine exists_congr fun field => and_congr_right fun _ => exists_congr fun written =>
    and_congr_right fun _ => ?_
  cases Query.ofFieldTest? config column field written with
  | none => exact iff_of_false nofun nofun
  | some compiled => simp

theorem Query.ofTest_eq_ok {schema : Schema} {config : Config} {column : String} {field : Field}
    {asked written : Test} {query : Query} (hfield : schema.resolve? column = some field)
    (hwritten : asked.written column = .ok written)
    (hquery : Query.ofFieldTest? config column field written = some (.ok query)) :
    Query.ofTest schema config column asked = .ok query :=
  Query.ofTest_eq_ok_iff.mpr ⟨field, hfield, written, hwritten, hquery⟩

/-- A test as the only clause of a list. -/
theorem Query.ofClauses_test (schema : Schema) (config : Config) (junction : Junction)
    (column : String) (asked : Test) :
    Query.ofClauses schema config [{ junction, predicate := .test column asked }] =
      (Query.ofTest schema config column asked).map fun query => .all [query] := by
  unfold Query.ofClauses
  rw [Query.partsOf, Query.partsOf, Query.partOf?, Query.ofPredicate?]
  cases Query.ofTest schema config column asked with
  | error e => rfl
  | ok query => rfl

/-- A list of clauses compiles if each of them does, and the first of its queries is that of the
first clause, if there is one. -/
theorem Query.partsOf_cons_eq_ok_iff {schema : Schema} {config : Config} {junction : Junction}
    {predicate : Predicate} {clauses : List Clause} {parts : List (Joined Query)} :
    Query.partsOf schema config ({ junction, predicate } :: clauses) = .ok parts ↔
      ∃ query more, Query.ofPredicate? schema config predicate = .ok query ∧
        Query.partsOf schema config clauses = .ok more ∧
        parts = (query.map fun query => { junction, predicate := query }).toList ++ more := by
  rw [Query.partsOf, Query.partOf?, bind_eq_ok_iff]
  constructor
  · rintro ⟨part, hpart, hparts⟩
    obtain ⟨query, hquery, rfl⟩ := bind_pure_eq_ok_iff.mp hpart
    obtain ⟨more, hmore, rfl⟩ := bind_pure_eq_ok_iff.mp hparts
    exact ⟨query, more, hquery, hmore, rfl⟩
  · rintro ⟨query, more, hquery, hmore, rfl⟩
    exact ⟨_, bind_pure_eq_ok_iff.mpr ⟨query, hquery, rfl⟩,
      bind_pure_eq_ok_iff.mpr ⟨more, hmore, rfl⟩⟩

end FullText
