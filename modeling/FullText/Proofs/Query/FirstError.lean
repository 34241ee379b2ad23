import FullText.Proofs.Query.Operands

/-!
The error of a list of clauses. However the clauses are joined and nested, the list fails exactly
when one of the tests in it fails on its own, and it fails as the first of these does when the tests
are taken from left to right.
-/

namespace FullText

/-! ### The tests of a predicate -/

namespace Predicate

mutual

/-- The tests in a predicate with their columns, from left to right. -/
def tests : Predicate → List (String × Test)
  | .test column asked => [(column, asked)]
  | .raw _ => []
  | .nested clauses => clauseTests clauses

/-- The tests in a list of clauses. -/
def clauseTests : List (Joined Predicate) → List (String × Test)
  | [] => []
  | clause :: clauses => joinedTests clause ++ clauseTests clauses

def joinedTests : Joined Predicate → List (String × Test)
  | { junction := _, predicate } => predicate.tests

end

end Predicate

namespace Query

section Failures

variable (schema : Schema) (config : Config)

/-- The error of a test with its column, if it fails. -/
def testFailure? : String × Test → Option Error
  | (column, asked) => failure? (ofTest schema config column asked)

mutual

theorem failure?_ofPredicate? : (predicate : Predicate) →
    failure? (ofPredicate? schema config predicate) =
      predicate.tests.findSome? (testFailure? schema config)
  | .test column asked => by
      rw [ofPredicate?, failure?_map, Predicate.tests, List.findSome?_singleton]
      rfl
  | .raw query => by
      rw [ofPredicate?, Predicate.tests]
      rfl
  | .nested clauses => by
      rw [ofPredicate?, Predicate.tests, ← failure?_partsOf clauses]
      exact failure?_bind_pure

theorem failure?_partsOf : (clauses : List (Joined Predicate)) →
    failure? (partsOf schema config clauses) =
      (Predicate.clauseTests clauses).findSome? (testFailure? schema config)
  | [] => by
      rw [partsOf, Predicate.clauseTests]
      rfl
  | clause :: clauses => by
      rw [partsOf, Predicate.clauseTests, List.findSome?_append, ← failure?_partOf? clause,
        ← failure?_partsOf clauses]
      -- Whatever the first clause compiles to, the others fail in the same way.
      apply failure?_bind
      intro part
      exact failure?_bind_pure

theorem failure?_partOf? : (clause : Joined Predicate) →
    failure? (partOf? schema config clause) =
      (Predicate.joinedTests clause).findSome? (testFailure? schema config)
  | { junction, predicate } => by
      rw [partOf?, Predicate.joinedTests, ← failure?_ofPredicate? predicate]
      exact failure?_bind_pure

end

/-- A list of clauses fails as the first of its tests that does. -/
theorem failure?_ofClauses (clauses : List Clause) :
    failure? (ofClauses schema config clauses) =
      (Predicate.clauseTests clauses).findSome? (testFailure? schema config) := by
  rw [← failure?_partsOf]
  exact failure?_bind_pure

/-- The error of a list of clauses is that of a test. -/
theorem exists_failing_test {schema : Schema} {config : Config} {clauses : List Clause} {e : Error}
    (herror : ofClauses schema config clauses = .error e) :
    ∃ column asked, ofTest schema config column asked = .error e := by
  rw [← failure?_eq_some_iff, failure?_ofClauses] at herror
  obtain ⟨⟨column, asked⟩, -, htest⟩ := List.exists_of_findSome?_eq_some herror
  exact ⟨column, asked, failure?_eq_some_iff.mp htest⟩

end Failures

/-- A test with its column as the only clause of a list. -/
def alone (junction : Junction) : String × Test → List Clause
  | (column, asked) => [{ junction, predicate := .test column asked }]

theorem failure?_alone (schema : Schema) (config : Config) (junction : Junction)
    (test : String × Test) :
    failure? (ofClauses schema config (alone junction test)) = testFailure? schema config test := by
  obtain ⟨column, asked⟩ := test
  rw [alone, ofClauses_test, failure?_map, testFailure?]

/-- The first bad test decides the error. A list of clauses fails exactly when one of its tests
fails on its own, and its error is that of the first such test; lists with the same tests, however
they are joined and nested and whatever text is passed on between them, have the same error. -/
theorem first_bad_test_decides (schema : Schema) (config : Config) (junction : Junction)
    (clauses : List Clause) :
    ((∃ e, ofClauses schema config clauses = .error e) ↔
      ∃ test ∈ Predicate.clauseTests clauses,
        ∃ e, ofClauses schema config (alone junction test) = .error e) ∧
    (∀ e, ofClauses schema config clauses = .error e ↔
      ∃ before test after, Predicate.clauseTests clauses = before ++ test :: after ∧
        (∀ earlier ∈ before,
          ∃ query, ofClauses schema config (alone junction earlier) = .ok query) ∧
        ofClauses schema config (alone junction test) = .error e) ∧
    ∀ others : List Clause, Predicate.clauseTests others = Predicate.clauseTests clauses →
      failure? (ofClauses schema config others) = failure? (ofClauses schema config clauses) := by
  have hfirst (e : Error) :
      failure? (ofClauses schema config clauses) = some e ↔
        ∃ before test after, Predicate.clauseTests clauses = before ++ test :: after ∧
          (∀ earlier ∈ before, testFailure? schema config earlier = none) ∧
          testFailure? schema config test = some e := by
    rw [failure?_ofClauses, List.findSome?_eq_some_iff]
    simp only [and_comm]
  simp only [← failure?_eq_some_iff, ← failure?_eq_none_iff, failure?_alone]
  refine ⟨?_, hfirst, ?_⟩
  · simp only [failure?_ofClauses, ← Option.isSome_iff_exists]
    exact List.findSome?_isSome_iff
  · intro others hothers
    rw [failure?_ofClauses, failure?_ofClauses, hothers]

/-- An index of films. -/
def films : Schema :=
  { name := "films", fields := [.text "title", .numeric "year"] }

/-- A film by its title, or two mistakes in parentheses: a year is no text to look for a pattern in,
and the films have no place. -/
def mistakenFilms : List Clause :=
  [{ junction := .and, predicate := .test "title" (.compare .eq (.text "Ran")) },
    { junction := .or, predicate := .raw "@title:Kagemusha" },
    { junction := .or, predicate := .nested [
      { junction := .or, predicate := .raw " " },
      { junction := .or, predicate := .nested [
        { junction := .and, predicate := .test "films.year" (.compare .like (.text "19%")) }] },
      { junction := .and, predicate := .test "place" .notNull }] }]

/-- The pattern is complained about, since it comes before the place. -/
theorem mistakenFilms_error :
    ofClauses films {} mistakenFilms =
      .error (.unsupportedOperator "films.year" "like" .numeric) := by
  have hbefore : ∀ earlier ∈ [("title", Test.compare .eq (.text "Ran"))],
      ∃ query, ofClauses films {} (alone .and earlier) = .ok query := by
    intro earlier hearlier
    obtain rfl := List.mem_singleton.mp hearlier
    exact ⟨_, rfl⟩
  apply ((first_bad_test_decides films {} .and mistakenFilms).2.1 _).mpr
  exact ⟨_, ("films.year", .compare .like (.text "19%")), [("place", .notNull)], rfl, hbefore, rfl⟩

end Query

end FullText
