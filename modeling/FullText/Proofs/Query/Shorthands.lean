import FullText.Proofs.Query.Rewriting

/-!
Shorthand comparisons. An equality with null is short for a null test, and an equality with a list
for a membership in it. Which of the two a clause is written with makes no difference, to its query
or to its error, wherever it stands.
-/

namespace FullText

/-- A comparison with null or with a list, and the test that it is short for. The membership has the
items of the list as they are, or with some or all of the enumerations among them resolved. -/
inductive Test.ShortFor : Test → Test → Prop
  | isNull {v : Value} (hv : v.resolved = .null) : Test.ShortFor (.compare .eq v) .isNull
  | notNull {v : Value} (hv : v.resolved = .null) : Test.ShortFor (.compare .ne v) .notNull
  | isIn {v : Value} {items : List Value} (hv : v.resolved = (Value.list items).resolved) :
      Test.ShortFor (.compare .eq v) (.isIn items)
  | notIn {v : Value} {items : List Value} (hv : v.resolved = (Value.list items).resolved) :
      Test.ShortFor (.compare .ne v) (.notIn items)

/-- A shorthand and what it is short for are written out to the same test. -/
theorem Test.ShortFor.written_eq {short long : Test} (hshort : short.ShortFor long)
    (column : String) :
    (short.written column).map Test.resolved = (long.written column).map Test.resolved := by
  cases hshort with
  | isNull hv => simp [Test.written, hv]
  | notNull hv => simp [Test.written, hv]
  | isIn hv => simp [Test.written, hv, Value.resolved, Except.map, Test.resolved]
  | notIn hv => simp [Test.written, hv, Value.resolved, Except.map, Test.resolved]

namespace Query

/-- Shorthands may be written out anywhere in a list of clauses. Whatever fields there are, the list
compiles to the same query, or it ends in the same error. -/
theorem shorthands_compile_alike {short long : List Clause}
    (hshort : ClausesRewritten Test.ShortFor short long) (schema : Schema) (config : Config) :
    ofClauses schema config short = ofClauses schema config long := by
  have halike : CompilesAlike schema config Test.ShortFor := by
    intro column asked other hasked
    exact ofTest_eq_of_written config column schema (hasked.written_eq column)
  exact ofClauses_rewritten halike hshort

/-- An index of rooms. -/
def rooms : Schema :=
  { name := "rooms", fields := [.tag "floor", .numeric "seats"] }

/-- The lower floors, by a name that they have together. -/
def lowerFloors : Value :=
  .backed "Lower" (.list [.int 0, .backed "First" (.text "1st")])

/-- The rooms on the lower floors, and those elsewhere of which the seats are known. -/
def shortRooms : List Clause :=
  [{ junction := .and, predicate := .test "floor" (.compare .eq lowerFloors) },
    { junction := .or, predicate := .nested [
      { junction := .and, predicate := .test "rooms.seats" (.compare .ne (.backed "None" .null)) },
      { junction := .and, predicate := .raw "@seats:[0 4]" },
      { junction := .and, predicate := .test "floor" (.compare .ne lowerFloors) }] }]

/-- The same rooms without shorthands. -/
def longRooms : List Clause :=
  [{ junction := .and, predicate := .test "floor" (.isIn [.int 0, .backed "First" (.text "1st")]) },
    { junction := .or, predicate := .nested [
      { junction := .and, predicate := .test "rooms.seats" .notNull },
      { junction := .and, predicate := .raw "@seats:[0 4]" },
      { junction := .and, predicate := .test "floor" (.notIn [.int 0, .text "1st"]) }] }]

theorem rooms_compile_alike :
    ClausesRewritten Test.ShortFor shortRooms longRooms ∧
      ∃ query, ofClauses rooms {} longRooms = .ok query ∧
        ofClauses rooms {} shortRooms = .ok query := by
  have hlower : (Test.compare .ne lowerFloors).ShortFor (.notIn [.int 0, .text "1st"]) :=
    .notIn (Value.resolved_eq_of_list rfl)
  have hrooms : ClausesRewritten Test.ShortFor shortRooms longRooms := by
    refine .cons .and (.test "floor" (.isIn rfl)) (.cons .or (.nested ?_) .nil)
    refine .cons .and (.test "rooms.seats" (.notNull rfl)) ?_
    exact .cons .and (.same _) (.cons .and (.test "floor" hlower) .nil)
  have hlong : ∃ query, ofClauses rooms {} longRooms = .ok query := ⟨_, rfl⟩
  obtain ⟨query, hquery⟩ := hlong
  exact ⟨hrooms, query, hquery, (shorthands_compile_alike hrooms rooms {}).trans hquery⟩

end Query

end FullText
