import FullText.Proofs.Query.FirstError

/-!
The clause of a test. Whatever is asked of a field, the clause for it names this field and no other:
it is a condition behind the name of the field, or one of several in parentheses, and there is one
minus sign in front of it at most.
-/

namespace FullText

/-- A query that asks something of one field. -/
inductive Query.AsksOf (name : String) : Query → Prop
  | one (condition : Condition) : Query.AsksOf name (.field name condition)
  | anyOf {conditions : List Condition} (hne : conditions ≠ []) :
      Query.AsksOf name (.group (.any (conditions.map (Query.field name))))

/-- A query that asks something of one field, or that denies it. -/
inductive Query.IsClauseOf (name : String) : Query → Prop
  | plain {query : Query} (hquery : query.AsksOf name) : Query.IsClauseOf name query
  | negated {query : Query} (hquery : query.AsksOf name) : Query.IsClauseOf name (.not query)

namespace Query

variable {config : Config} {column name : String} {asked : Test} {query : Query}

/-- Only a question that is no denial itself is denied. -/
theorem IsClauseOf.asksOf (hquery : (Query.not query).IsClauseOf name) : query.AsksOf name := by
  cases hquery with
  | plain hquery => cases hquery
  | negated hquery => exact hquery

/-- The text of a question begins with its field, or with a parenthesis. -/
theorem AsksOf.head_text (hquery : query.AsksOf name) :
    ∃ c rest, query.text.toList = c :: rest ∧ (c = '@' ∨ c = '(') := by
  cases hquery with
  | one condition =>
      refine ⟨'@', (name ++ ":" ++ condition.text).toList, ?_, .inl rfl⟩
      simp [Query.text]
  | @anyOf conditions _ =>
      let alternatives := Query.any (conditions.map (Query.field name))
      refine ⟨'(', (alternatives.text ++ ")").toList, ?_, .inr rfl⟩
      simp [Query.text, alternatives]

theorem IsClauseOf.head_text (hquery : query.IsClauseOf name) :
    ∃ c rest, query.text.toList = c :: rest ∧ (c = '@' ∨ c = '(' ∨ c = '-') := by
  cases hquery with
  | plain hquery =>
      obtain ⟨c, rest, htext, hc⟩ := hquery.head_text
      exact ⟨c, rest, htext, hc.imp_right .inl⟩
  | @negated query hquery =>
      refine ⟨'-', query.text.toList, ?_, .inr (.inr rfl)⟩
      simp [Query.text]

/-! ### Clauses of the kinds of fields -/

section Kinds

variable {α : Type}

private theorem isClauseOf_of_bind {x : Except Error α} {f : α → Query}
    (hclause : ∀ a, x = .ok a → (f a).IsClauseOf name)
    (h : some (x >>= fun a => pure (f a)) = some (Except.ok query)) : query.IsClauseOf name := by
  obtain ⟨a, ha, rfl⟩ := bind_pure_eq_ok_iff.mp (Option.some.inj h)
  exact hclause a ha

private theorem isClauseOf_of_ok {clause : Query} (hclause : clause.IsClauseOf name)
    (h : some (Except.ok clause : Except Error Query) = some (.ok query)) :
    query.IsClauseOf name := by
  obtain rfl := Except.ok.inj (Option.some.inj h)
  exact hclause

theorem operands_ne_nil {read : Value → Except Error α} {values : List Value} {items : List α}
    (h : operands read column values = .ok items) : items ≠ [] := by
  obtain ⟨hne, hitems⟩ := operands_eq_ok_iff.mp h
  rintro rfl
  exact hne (List.forall₂_nil_right_iff.mp hitems)

theorem anyNumber_asksOf (name : String) {numbers : List Numeral} (hne : numbers ≠ []) :
    (anyNumber name numbers).AsksOf name := by
  match numbers with
  | [] => exact absurd rfl hne
  | [n] => exact .one (exactly n)
  | n :: m :: more =>
      let conditions := (n :: m :: more).map exactly
      have hany : AsksOf name (.group (.any (conditions.map (Query.field name)))) :=
        .anyOf (List.cons_ne_nil _ _)
      rwa [List.map_map] at hany

theorem ofTextTest?_isClauseOf (h : ofTextTest? config column name asked = some (.ok query)) :
    query.IsClauseOf name := by
  cases asked with
  | compare operator v =>
      cases operator with
      | eq => exact isClauseOf_of_bind (fun _ _ => .plain (.one _)) h
      | ne => exact isClauseOf_of_bind (fun _ _ => .negated (.one _)) h
      | like =>
          obtain ⟨s, -, h⟩ := bind_eq_ok_iff.mp (Option.some.inj h)
          dsimp only at h
          split at h
          case isTrue => cases h
          case isFalse =>
            obtain rfl := Except.ok.inj h
            exact .plain (.one _)
      | _ => cases h
  | isIn values => exact isClauseOf_of_bind (fun _ _ => .plain (.one _)) h
  | notIn values => exact isClauseOf_of_bind (fun _ _ => .negated (.one _)) h
  | isNull => exact isClauseOf_of_ok (.plain (.one _)) h
  | notNull => exact isClauseOf_of_ok (.negated (.one _)) h
  | _ => cases h

theorem ofTagTest?_isClauseOf (h : ofTagTest? config column name asked = some (.ok query)) :
    query.IsClauseOf name := by
  cases asked with
  | compare operator v =>
      cases operator with
      | eq => exact isClauseOf_of_bind (fun _ _ => .plain (.one _)) h
      | ne => exact isClauseOf_of_bind (fun _ _ => .negated (.one _)) h
      | _ => cases h
  | isIn values => exact isClauseOf_of_bind (fun _ _ => .plain (.one _)) h
  | notIn values => exact isClauseOf_of_bind (fun _ _ => .negated (.one _)) h
  | isNull => exact isClauseOf_of_ok (.plain (.one _)) h
  | notNull => exact isClauseOf_of_ok (.negated (.one _)) h
  | _ => cases h

theorem between_asksOf {low high : Value} (h : between column name low high = .ok query) :
    query.AsksOf name := by
  obtain ⟨m, -, h⟩ := bind_eq_ok_iff.mp h
  obtain ⟨n, -, rfl⟩ := bind_pure_eq_ok_iff.mp h
  exact .one _

theorem ofNumericTest?_isClauseOf (h : ofNumericTest? column name asked = some (.ok query)) :
    query.IsClauseOf name := by
  cases asked with
  | compare operator v =>
      cases operator with
      | ne => exact isClauseOf_of_bind (fun _ _ => .negated (.one _)) h
      | like => cases h
      | _ => exact isClauseOf_of_bind (fun _ _ => .plain (.one _)) h
  | isIn values =>
      exact isClauseOf_of_bind
        (fun _ hnumbers => .plain (anyNumber_asksOf name (operands_ne_nil hnumbers))) h
  | notIn values =>
      exact isClauseOf_of_bind
        (fun _ hnumbers => .negated (anyNumber_asksOf name (operands_ne_nil hnumbers))) h
  | between low high => exact .plain (between_asksOf (Option.some.inj h))
  | notBetween low high =>
      obtain ⟨query, hquery, rfl⟩ := map_eq_ok_iff.mp (Option.some.inj h)
      exact .negated (between_asksOf hquery)
  | isNull => exact isClauseOf_of_ok (.negated (.one _)) h
  | notNull => exact isClauseOf_of_ok (.plain (.one _)) h
  | _ => cases h

theorem ofGeoTest?_isClauseOf (h : ofGeoTest? column name asked = some (.ok query)) :
    query.IsClauseOf name := by
  cases asked with
  | near lon lat radius unit =>
      replace h := Option.some.inj h
      split at h
      case isTrue => cases h
      case isFalse =>
        split at h
        case isTrue => cases h
        case isFalse =>
          obtain rfl := Except.ok.inj h
          exact .plain (.one _)
  | _ => cases h

end Kinds

theorem ofFieldTest?_isClauseOf {field : Field}
    (h : ofFieldTest? config column field asked = some (.ok query)) :
    query.IsClauseOf field.name := by
  obtain ⟨name, type⟩ := field
  cases type with
  | text => exact ofTextTest?_isClauseOf h
  | numeric => exact ofNumericTest?_isClauseOf h
  | tag => exact ofTagTest?_isClauseOf h
  | geo => exact ofGeoTest?_isClauseOf h
  | geoShape => cases h
  | vector => cases h

/-- The clause of a test is about the field that its column names. -/
theorem ofTest_isClauseOf {schema : Schema} (h : ofTest schema config column asked = .ok query) :
    ∃ field, schema.resolve? column = some field ∧ query.IsClauseOf field.name := by
  obtain ⟨field, hfield, written, -, hquery⟩ := ofTest_eq_ok_iff.mp h
  exact ⟨field, hfield, ofFieldTest?_isClauseOf hquery⟩

/-- The text of a test as the only clause of a list. -/
def clauseText (schema : Schema) (config : Config) (junction : Junction) (column : String)
    (asked : Test) : Except Error String :=
  (ofClauses schema config (alone junction (column, asked))).map text

theorem clauseText_eq (schema : Schema) (config : Config) (junction : Junction) (column : String)
    (asked : Test) :
    clauseText schema config junction column asked =
      (ofTest schema config column asked).map text := by
  rw [clauseText, alone, ofClauses_test]
  cases ofTest schema config column asked with
  | error e => rfl
  | ok query => simp [Except.map, Query.text, texts]

end Query

end FullText
