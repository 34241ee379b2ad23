import FullText.Proofs.Query.FieldClauses

/-!
Tests and their negations. Whatever a test is about, its negation compiles exactly when the test
does, and the text of one of them is the text of the other with a single minus sign in front. The
sign is in front of the negation, except for the null tests of numbers: a number is null when it
lies in no range at all, so there the sign is in front of the test.
-/

namespace FullText

/-- A test and its negation. -/
inductive Test.Opposite : Test → Test → Prop
  | equality (v : Value) : Test.Opposite (.compare .eq v) (.compare .ne v)
  | membership (values : List Value) : Test.Opposite (.isIn values) (.notIn values)
  | nullity : Test.Opposite .isNull .notNull
  | range (low high : Value) : Test.Opposite (.between low high) (.notBetween low high)

/-- A test for null, which an equality with null is as well. -/
def Test.AsksNull : Test → Prop
  | .isNull => True
  | .compare .eq v => v.resolved = .null
  | _ => False

/-- Two texts of which the second is the first with a single minus sign in front, or two errors. -/
inductive DifferBySign : Except Error String → Except Error String → Prop
  | errors (e other : Error) : DifferBySign (.error e) (.error other)
  | texts {text : String} (hsingle : ∀ rest, text ≠ "-" ++ rest) :
      DifferBySign (.ok text) (.ok ("-" ++ text))

namespace Test.Opposite

variable {asked negated : Test}

/-- Opposite tests are written out to opposite tests. -/
theorem written (hopposite : asked.Opposite negated) (column : String) :
    ∃ plain denied, asked.written column = .ok plain ∧ negated.written column = .ok denied ∧
      plain.Opposite denied ∧ (plain = .isNull ↔ asked.AsksNull) := by
  cases hopposite with
  | equality v =>
      rcases v.null_or_list_or_single with hnull | ⟨values, hlist⟩ | hsingle
      · exact ⟨.isNull, .notNull, by simp [Test.written, hnull], by simp [Test.written, hnull],
          .nullity, iff_of_true rfl hnull⟩
      · refine ⟨.isIn values, .notIn values, by simp [Test.written, hlist],
          by simp [Test.written, hlist], .membership values, ?_⟩
        simp [AsksNull, hlist]
      · exact ⟨_, _, written_scalar hsingle, written_scalar hsingle, .equality v,
          iff_of_false nofun hsingle.1⟩
  | membership values => exact ⟨_, _, rfl, rfl, .membership values, iff_of_false nofun id⟩
  | nullity => exact ⟨_, _, rfl, rfl, .nullity, iff_of_true rfl trivial⟩
  | range low high => exact ⟨_, _, rfl, rfl, .range low high, iff_of_false nofun id⟩

end Test.Opposite

namespace Query

variable {config : Config} {column name : String} {asked negated : Test}

/-! ### What fields make of opposite tests -/

/-- What a field makes of one test denies what it makes of another. -/
def DeniedBy (plain denied : Option (Except Error Query)) : Prop :=
  denied = plain.map (Except.map Query.not)

private theorem deniedBy_bind {α : Type} (x : Except Error α) (f : α → Query) :
    DeniedBy (some (x >>= fun a => pure (f a))) (some (x >>= fun a => pure (.not (f a)))) := by
  cases x <;> rfl

theorem ofTextTest?_opposite (hopposite : asked.Opposite negated) :
    DeniedBy (ofTextTest? config column name asked) (ofTextTest? config column name negated) := by
  cases hopposite with
  | equality v => exact deniedBy_bind _ _
  | membership values => exact deniedBy_bind _ _
  | nullity => rfl
  | range low high => rfl

theorem ofTagTest?_opposite (hopposite : asked.Opposite negated) :
    DeniedBy (ofTagTest? config column name asked) (ofTagTest? config column name negated) := by
  cases hopposite with
  | equality v => exact deniedBy_bind _ _
  | membership values => exact deniedBy_bind _ _
  | nullity => rfl
  | range low high => rfl

theorem ofNumericTest?_opposite (hopposite : asked.Opposite negated) (hnull : asked ≠ .isNull) :
    DeniedBy (ofNumericTest? column name asked) (ofNumericTest? column name negated) := by
  cases hopposite with
  | equality v => exact deniedBy_bind _ _
  | membership values => exact deniedBy_bind _ _
  | nullity => exact absurd rfl hnull
  | range low high => rfl

theorem ofGeoTest?_opposite (hopposite : asked.Opposite negated) :
    DeniedBy (ofGeoTest? column name asked) (ofGeoTest? column name negated) := by
  cases hopposite <;> rfl

theorem ofFieldTest?_opposite (field : Field) (hopposite : asked.Opposite negated)
    (hnull : field.kind = .numeric → asked ≠ .isNull) :
    DeniedBy (ofFieldTest? config column field asked)
      (ofFieldTest? config column field negated) := by
  obtain ⟨name, type⟩ := field
  cases type with
  | text => exact ofTextTest?_opposite hopposite
  | numeric => exact ofNumericTest?_opposite hopposite (hnull rfl)
  | tag => exact ofTagTest?_opposite hopposite
  | geo => exact ofGeoTest?_opposite hopposite
  | geoShape => rfl
  | vector => rfl

/-- A number is null where it is not any number. -/
theorem ofFieldTest?_numericNull {field : Field} (hkind : field.kind = .numeric)
    (hopposite : Test.isNull.Opposite negated) :
    DeniedBy (ofFieldTest? config column field negated)
      (ofFieldTest? config column field .isNull) := by
  cases hopposite
  obtain ⟨name, type⟩ := field
  cases type with
  | numeric => rfl
  | _ => cases hkind

/-! ### Texts of opposite tests -/

theorem ofTest_of_written {schema : Schema} {field : Field} {written : Test}
    (hfield : schema.resolve column = .ok field) (hwritten : asked.written column = .ok written) :
    ofTest schema config column asked = (ofFieldTest? config column field written).getD
      (.error (.unsupportedOperator column written.operatorName field.kind)) := by
  rw [ofTest, hfield]
  change asked.written column >>= _ = _
  rw [hwritten]
  dsimp only [bind, Except.bind]
  cases ofFieldTest? config column field written <;> rfl

theorem ofTest_of_unknown {schema : Schema} {e : Error}
    (hfield : schema.resolve column = .error e) :
    ofTest schema config column asked = .error e := by
  rw [ofTest, hfield]
  rfl

/-- The text of a question does not begin with a minus sign, so the denial has only its own. -/
theorem DeniedBy.differBySign {plain denied : Option (Except Error Query)}
    (hdenied : DeniedBy plain denied)
    (hclause : ∀ query, denied = some (.ok query) → query.IsClauseOf name) (e other : Error) :
    DifferBySign ((plain.getD (.error e)).map text) ((denied.getD (.error other)).map text) := by
  subst hdenied
  match plain with
  | none => exact .errors _ _
  | some (.error e) => exact .errors _ _
  | some (.ok query) =>
      obtain ⟨c, rest, htext, hc⟩ := (hclause _ rfl).asksOf.head_text
      refine .texts fun tail heq => ?_
      rw [heq, String.toList_append] at htext
      obtain ⟨rfl, -⟩ := List.cons.inj htext
      rcases hc with hc | hc <;> exact absurd hc (by decide)

/-- A test for null of a column with numbers. -/
def AsksNumericNull (schema : Schema) (column : String) (asked : Test) : Prop :=
  asked.AsksNull ∧ ∃ field, schema.resolve? column = some field ∧ field.kind = .numeric

/-- Negations are exact. A test and its negation as single clauses either both end in an error, or
the text of the negation is that of the test with a single minus sign in front; for the null tests
of a column with numbers it is the other way round. -/
theorem opposites_differ_by_sign (hopposite : asked.Opposite negated) (schema : Schema)
    (config : Config) (junction : Junction) (column : String) :
    (¬ AsksNumericNull schema column asked →
      DifferBySign (clauseText schema config junction column asked)
        (clauseText schema config junction column negated)) ∧
    (AsksNumericNull schema column asked →
      DifferBySign (clauseText schema config junction column negated)
        (clauseText schema config junction column asked)) := by
  obtain ⟨plain, denied, hplain, hdenied, hwritten, hnull⟩ := hopposite.written column
  simp only [clauseText_eq]
  cases hfield : schema.resolve column with
  | error e =>
      rw [ofTest_of_unknown hfield, ofTest_of_unknown hfield]
      exact ⟨fun _ => .errors e e, fun _ => .errors e e⟩
  | ok field =>
      have hcolumn := Schema.resolve_eq_ok_iff.mp hfield
      rw [ofTest_of_written hfield hplain, ofTest_of_written hfield hdenied]
      constructor
      · intro hnumeric
        refine (ofFieldTest?_opposite field hwritten fun hkind hisNull => ?_).differBySign
          (fun query => ofFieldTest?_isClauseOf) _ _
        exact hnumeric ⟨hnull.mp hisNull, field, hcolumn, hkind⟩
      · rintro ⟨hasksNull, found, hfound, hkind⟩
        obtain rfl := Option.some.inj (hcolumn.symm.trans hfound)
        obtain rfl := hnull.mpr hasksNull
        exact (ofFieldTest?_numericNull hkind hwritten).differBySign
          (fun query => ofFieldTest?_isClauseOf) _ _

/-- Places with the noise that was measured there. -/
def sensors : Schema :=
  { name := "sensors", fields := [.tag "place", .numeric "level"] }

/-- Places are not among others, with a minus sign. A level that is no enumeration member, which
stands for null, has a minus sign for the test and none for its negation. -/
theorem sensors_negated :
    DifferBySign (clauseText sensors {} .or "place" (.isIn [.text "roof", .int 2]))
        (clauseText sensors {} .or "place" (.notIn [.text "roof", .int 2])) ∧
      clauseText sensors {} .or "place" (.notIn [.text "roof", .int 2]) =
        .ok "-@place:\x7b roof | 2 \x7d" ∧
      DifferBySign
        (clauseText sensors {} .and "sensors.level" (.compare .ne (.backed "Unknown" .null)))
        (clauseText sensors {} .and "sensors.level" (.compare .eq (.backed "Unknown" .null))) ∧
      clauseText sensors {} .and "sensors.level" (.compare .eq (.backed "Unknown" .null)) =
        .ok "-@level:[-inf +inf]" := by
  refine ⟨?_, rfl, ?_, rfl⟩
  · apply (opposites_differ_by_sign (.membership _) sensors {} .or "place").1
    rintro ⟨hasksNull, -⟩
    exact hasksNull
  · apply (opposites_differ_by_sign (.equality _) sensors {} .and "sensors.level").2
    exact ⟨rfl, .numeric "level", rfl, rfl⟩

end Query

end FullText
