import FullText.Proofs.Query.FieldClauses
import FullText.Proofs.Query.Groups
import FullText.Proofs.Query.NullTerm

/-!
References to fields in the text of a query. A clause on a field refers to it between `@` and `:`,
and the name stands there as it is, where every text that is compared is escaped. Of the name of a
field no more is asked than that there is one; so a reference is read as the name of the field
exactly when nothing in the name has a meaning in queries.
-/

namespace FullText

/-! ### References read back -/

/-- A text that refers to a field: from `@` on, what stands in front of the first unescaped colon
spells the name of the field. -/
def RefersTo (name : String) (cs : List Char) : Prop :=
  ∃ text reference rest, cs = '@' :: text ∧
    splitUnescaped (· == ':') text = (reference, ':' :: rest) ∧ SpellsTerm reference name

/-- Only backslashes are taken out with the escapes. -/
theorem count_unescape {c : Char} (hc : c ≠ '\\') (cs : List Char) :
    (unescape cs).count c = cs.count c := by
  have hbackslash : ¬ ('\\' == c) := by simpa using hc.symm
  fun_induction unescape cs with
  | case1 => rfl
  | case2 d cs ih =>
      rw [List.count_cons, ih, List.count_cons, List.count_cons, if_neg hbackslash, Nat.add_zero]
  | case3 d cs _ ih => rw [List.count_cons, ih, List.count_cons]

/-- A name in front of a colon is read back as it is exactly when nothing in it has a meaning in
queries. Otherwise the reading ends inside the name, or passes over the colon, or takes an escape
out, or comes across something with a meaning. -/
theorem refersTo_iff (name : String) (rest : List Char) :
    RefersTo name ('@' :: (name.toList ++ ':' :: rest)) ↔ Plain name := by
  constructor
  · rintro ⟨text, reference, later, htext, hsplit, hspells⟩
    obtain rfl := (List.cons.inj htext).2
    have hwhole := splitUnescaped_append (· == ':') (name.toList ++ ':' :: rest)
    rw [hsplit] at hwhole
    dsimp only at hwhole
    have hname : unescape reference = name.toList := by
      rw [← hspells.2, unescaped, String.toList_ofList]
    have hsame : reference = name.toList := by
      rcases List.append_eq_append_iff.mp hwhole with ⟨more, hmore, -⟩ | ⟨more, hmore, hcolon⟩
      · -- What is read is no longer than what spells it.
        have hlength := unescape_length_le reference
        rw [hname, hmore, List.length_append] at hlength
        have hnil : more = [] := List.length_eq_zero_iff.mp (by omega)
        rw [hmore, hnil, List.append_nil]
      · cases more with
        | nil => rw [hmore, List.append_nil]
        | cons c more =>
            -- The colon behind the name would be in the reference, and so in the name.
            obtain rfl := (List.cons.inj hcolon).1
            have hcount := count_unescape (show ':' ≠ '\\' by decide) reference
            rw [hname, hmore, List.count_append, List.count_cons_self] at hcount
            omega
    rw [hsame] at hspells
    exact (spellsTerm_self_iff name).mp hspells
  · intro hplain
    have hfree : FreeOf (· == ':') name.toList := by
      intro c hc
      have hspecial := hplain c hc
      constructor
      · rw [beq_eq_false_iff_ne]
        rintro rfl
        exact absurd hspecial (by decide)
      · rintro rfl
        exact absurd hspecial (by decide)
    have hsplit : splitUnescaped (· == ':') (name.toList ++ ':' :: rest) =
        (name.toList, ':' :: rest) := by
      rw [splitUnescaped_append_of_free _ _ hfree,
        splitUnescaped_stop _ _ _ (by decide) (by decide), List.append_nil]
    exact ⟨_, _, _, rfl, hsplit, (spellsTerm_self_iff name).mpr hplain⟩

/-- With its special characters escaped, every name is read back. -/
theorem refersTo_escapedTerm (name : String) (rest : List Char) :
    RefersTo name ('@' :: ((escapedTerm name).toList ++ ':' :: rest)) := by
  have hcolon (c : Char) (hc : (c == ':') = true) : isSpecial c = true := by
    rw [beq_iff_eq] at hc
    subst hc
    decide
  have hsplit : splitUnescaped (· == ':') ((escapedTerm name).toList ++ ':' :: rest) =
      ((escapedTerm name).toList, ':' :: rest) := by
    rw [escapedTerm_toList, splitUnescaped_escapeWhere isSpecial_backslash hcolon,
      splitUnescaped_stop _ _ _ (by decide) (by decide), List.append_nil]
  exact ⟨_, _, _, rfl, hsplit, spellsTerm_escapedTerm name⟩

namespace Query

/-! ### The clauses on fields in a query -/

mutual

/-- The conditions that a query puts on fields, from left to right, with the names of the fields. -/
def fieldClauses : Query → List (String × Condition)
  | .everything | .raw _ => []
  | .field name condition => [(name, condition)]
  | .not query | .group query => query.fieldClauses
  | .all queries | .any queries => fieldClausesOf queries

def fieldClausesOf : List Query → List (String × Condition)
  | [] => []
  | query :: queries => query.fieldClauses ++ fieldClausesOf queries

end

theorem fieldClausesOf_eq_flatMap (queries : List Query) :
    fieldClausesOf queries = queries.flatMap fieldClauses := by
  induction queries with
  | nil => rfl
  | cons query queries ih => rw [fieldClausesOf, ih, List.flatMap_cons]

/-- The text of one of several joined queries stands in the text of them all. -/
theorem text_infix_joined (separator : String) {query : Query} {queries : List Query}
    (hquery : query ∈ queries) :
    query.text.toList <:+: (String.intercalate separator (texts queries)).toList := by
  obtain ⟨first, later, rfl⟩ := List.exists_cons_of_ne_nil (List.ne_nil_of_mem hquery)
  rw [text_list]
  rcases List.mem_cons.mp hquery with rfl | hlater
  · exact List.infix_append_left
  · have hjoined : separator.toList ++ query.text.toList <:+:
        later.flatMap fun query => separator.toList ++ query.text.toList :=
      List.infix_of_mem_flatten (List.mem_map_of_mem hlater)
    exact List.infix_append_of_infix_right (List.infix_append_right.trans hjoined)

mutual

/-- The text of a clause on a field stands in the text of the query. -/
theorem text_infix_of_mem {clause : String × Condition} : (query : Query) →
    clause ∈ query.fieldClauses →
      (Query.field clause.1 clause.2).text.toList <:+: query.text.toList
  | .everything, hclause => by cases hclause
  | .raw _, hclause => by cases hclause
  | .field name condition, hclause => by
      obtain rfl := List.mem_singleton.mp hclause
      exact List.infix_rfl
  | .not query, hclause => by
      have hinside := text_infix_of_mem query hclause
      change _ <:+: ("-" ++ query.text).toList
      rw [String.toList_append]
      exact List.infix_append_of_infix_right hinside
  | .group query, hclause => by
      have hinside := text_infix_of_mem query hclause
      change _ <:+: ("(" ++ query.text ++ ")").toList
      rw [String.toList_append, String.toList_append]
      exact List.infix_append_of_infix_left (List.infix_append_of_infix_right hinside)
  | .all queries, hclause => by
      obtain ⟨query, hquery, hinside⟩ := text_infix_of_mem_list queries hclause
      exact hinside.trans (text_infix_joined " " hquery)
  | .any queries, hclause => by
      obtain ⟨query, hquery, hinside⟩ := text_infix_of_mem_list queries hclause
      exact hinside.trans (text_infix_joined " | " hquery)

theorem text_infix_of_mem_list {clause : String × Condition} : (queries : List Query) →
    clause ∈ fieldClausesOf queries → ∃ query ∈ queries,
      (Query.field clause.1 clause.2).text.toList <:+: query.text.toList
  | [], hclause => by cases hclause
  | query :: queries, hclause => by
      rcases List.mem_append.mp hclause with hfirst | hlater
      · exact ⟨query, List.mem_cons_self, text_infix_of_mem query hfirst⟩
      · obtain ⟨found, hfound, hinside⟩ := text_infix_of_mem_list queries hlater
        exact ⟨found, List.mem_cons_of_mem query hfound, hinside⟩

end

/-- What stands in the text of a query from the beginning of a clause on a field on. -/
def ContinuesFrom (query : Query) (name : String) (cs : List Char) : Prop :=
  ∃ condition before after, (name, condition) ∈ query.fieldClauses ∧
    cs = (Query.field name condition).text.toList ++ after ∧ query.text.toList = before ++ cs

theorem exists_continuesFrom {query : Query} {name : String} {condition : Condition}
    (hclause : (name, condition) ∈ query.fieldClauses) : ∃ cs, query.ContinuesFrom name cs := by
  obtain ⟨before, after, htext⟩ := text_infix_of_mem query hclause
  rw [List.append_assoc] at htext
  exact ⟨_, condition, before, after, hclause, rfl, htext.symm⟩

theorem ContinuesFrom.refersTo_iff {query : Query} {name : String} {cs : List Char}
    (hcontinues : query.ContinuesFrom name cs) : RefersTo name cs ↔ Plain name := by
  obtain ⟨condition, before, after, -, rfl, -⟩ := hcontinues
  have htext : (Query.field name condition).text.toList ++ after =
      '@' :: (name.toList ++ ':' :: (condition.text.toList ++ after)) := by
    simp [Query.text]
  rw [htext]
  exact FullText.refersTo_iff name _

/-! ### The clauses on fields in compiled predicates -/

theorem AsksOf.fieldClauses {query : Query} {name : String} (hquery : query.AsksOf name) :
    query.fieldClauses ≠ [] ∧ ∀ clause ∈ query.fieldClauses, clause.1 = name := by
  cases hquery with
  | one condition => simp [Query.fieldClauses]
  | @anyOf conditions hne =>
      rw [Query.fieldClauses, Query.fieldClauses, fieldClausesOf_eq_flatMap]
      obtain ⟨condition, conditions, rfl⟩ := List.exists_cons_of_ne_nil hne
      simp +contextual [Query.fieldClauses]

theorem IsClauseOf.fieldClauses {query : Query} {name : String} (hquery : query.IsClauseOf name) :
    query.fieldClauses ≠ [] ∧ ∀ clause ∈ query.fieldClauses, clause.1 = name := by
  cases hquery with
  | plain hquery => exact hquery.fieldClauses
  | negated hquery => exact hquery.fieldClauses

theorem fieldClauses_alternative (queries : List Query) :
    (alternative queries).fieldClauses = queries.flatMap fieldClauses := by
  unfold alternative
  split
  case h_1 query => simp
  case h_2 => rw [fieldClauses, fieldClauses, fieldClausesOf_eq_flatMap]

/-- Grouping keeps the clauses on fields in their order. -/
theorem fieldClauses_ofParts? (parts : List (Joined Query)) :
    (ofParts? parts).toList.flatMap fieldClauses =
      (parts.map Joined.predicate).flatMap fieldClauses := by
  rw [← groups_flatten, ofParts?]
  split
  case h_1 hgroups => rw [hgroups]; rfl
  case h_2 queries hgroups =>
    rw [hgroups]
    simp [fieldClauses, fieldClausesOf_eq_flatMap]
  case h_3 hgroups =>
    simp only [Option.toList_some, List.flatMap_singleton, fieldClauses,
      fieldClausesOf_eq_flatMap, List.flatMap_map, fieldClauses_alternative]
    rw [List.flatten_eq_flatMap, List.flatMap_assoc]
    rfl

section Compiled

variable (schema : Schema) (config : Config)

/-- The clauses on fields that a test with its column compiles to. -/
def testClauses : String × Test → List (String × Condition)
  | (column, asked) =>
    match ofTest schema config column asked with
    | .ok query => query.fieldClauses
    | .error _ => []

variable {schema config}

mutual

theorem fieldClauses_ofPredicate? : (predicate : Predicate) → {compiled : Option Query} →
    ofPredicate? schema config predicate = .ok compiled →
      compiled.toList.flatMap fieldClauses = predicate.tests.flatMap (testClauses schema config)
  | .test column asked, compiled, h => by
      rw [ofPredicate?] at h
      obtain ⟨query, hquery, rfl⟩ := map_eq_ok_iff.mp h
      simp [Predicate.tests, testClauses, hquery]
  | .raw text, compiled, h => by
      rw [ofPredicate?] at h
      obtain rfl := Except.ok.inj h
      split <;> simp [Predicate.tests, fieldClauses]
  | .nested clauses, compiled, h => by
      rw [ofPredicate?] at h
      obtain ⟨parts, hparts, rfl⟩ := bind_pure_eq_ok_iff.mp h
      rw [Predicate.tests, ← fieldClauses_partsOf clauses hparts, ← fieldClauses_ofParts?]
      cases ofParts? parts with
      | none => rfl
      | some query => simp [fieldClauses]

theorem fieldClauses_partsOf : (clauses : List (Joined Predicate)) →
    {parts : List (Joined Query)} → partsOf schema config clauses = .ok parts →
      (parts.map Joined.predicate).flatMap fieldClauses =
        (Predicate.clauseTests clauses).flatMap (testClauses schema config)
  | [], parts, h => by
      rw [partsOf] at h
      obtain rfl := Except.ok.inj h
      rfl
  | { junction, predicate } :: clauses, parts, h => by
      obtain ⟨compiled, more, hcompiled, hmore, rfl⟩ := partsOf_cons_eq_ok_iff.mp h
      rw [Predicate.clauseTests, Predicate.joinedTests, List.flatMap_append,
        ← fieldClauses_ofPredicate? predicate hcompiled, ← fieldClauses_partsOf clauses hmore]
      cases compiled <;> simp

end

/-- The clauses on fields in a compiled list are those of its tests, in their order. -/
theorem fieldClauses_ofClauses {clauses : List Clause} {query : Query}
    (h : ofClauses schema config clauses = .ok query) :
    query.fieldClauses = (Predicate.clauseTests clauses).flatMap (testClauses schema config) := by
  obtain ⟨parts, hparts, rfl⟩ := bind_pure_eq_ok_iff.mp h
  rw [← fieldClauses_partsOf clauses hparts, ← fieldClauses_ofParts?]
  cases ofParts? parts with
  | none => rfl
  | some query => simp

/-- Every test of a list that compiles does so. -/
theorem ofTest_of_ofClauses {clauses : List Clause} {query : Query}
    (h : ofClauses schema config clauses = .ok query) {column : String} {asked : Test}
    (hasked : (column, asked) ∈ Predicate.clauseTests clauses) :
    ∃ part, ofTest schema config column asked = .ok part := by
  have hnone := failure?_ofClauses schema config clauses
  rw [h, eq_comm] at hnone
  have htest := List.findSome?_eq_none_iff.mp hnone _ hasked
  exact failure?_eq_none_iff.mp htest

/-- The references in the text of a compiled list of clauses, however they are joined and nested,
are those that its tests make, and each test makes one. A reference is read as the name of the field
that the column of its test names exactly when nothing in this name has a meaning in queries. -/
theorem references_read_iff {clauses : List Clause} {query : Query}
    (h : ofClauses schema config clauses = .ok query) :
    (∀ name cs, query.ContinuesFrom name cs →
      ∃ column asked field, (column, asked) ∈ Predicate.clauseTests clauses ∧
        schema.resolve? column = some field ∧ field.name = name ∧
        (RefersTo field.name cs ↔ Plain field.name)) ∧
    ∀ column asked, (column, asked) ∈ Predicate.clauseTests clauses →
      ∃ field cs, schema.resolve? column = some field ∧ query.ContinuesFrom field.name cs := by
  have hclauses := fieldClauses_ofClauses h
  constructor
  · intro name cs hcontinues
    have hrefers := hcontinues.refersTo_iff
    obtain ⟨condition, -, -, hclause, -, -⟩ := hcontinues
    rw [hclauses, List.mem_flatMap] at hclause
    obtain ⟨⟨column, asked⟩, hasked, hclause⟩ := hclause
    obtain ⟨part, hpart⟩ := ofTest_of_ofClauses h hasked
    obtain ⟨field, hfield, hclauseOf⟩ := ofTest_isClauseOf hpart
    simp only [testClauses, hpart] at hclause
    obtain rfl : name = field.name := hclauseOf.fieldClauses.2 _ hclause
    exact ⟨column, asked, field, hasked, hfield, rfl, hrefers⟩
  · intro column asked hasked
    obtain ⟨part, hpart⟩ := ofTest_of_ofClauses h hasked
    obtain ⟨field, hfield, hclauseOf⟩ := ofTest_isClauseOf hpart
    obtain ⟨hne, hnames⟩ := hclauseOf.fieldClauses
    obtain ⟨⟨name, condition⟩, hclause⟩ := List.exists_mem_of_ne_nil _ hne
    obtain rfl : name = field.name := hnames _ hclause
    have hinside : (field.name, condition) ∈ query.fieldClauses := by
      rw [hclauses, List.mem_flatMap]
      refine ⟨(column, asked), hasked, ?_⟩
      simpa only [testClauses, hpart] using hclause
    obtain ⟨cs, hcs⟩ := exists_continuesFrom hinside
    exact ⟨field, cs, hfield, hcs⟩

end Compiled

/-- People by their cities, their ages and their first names. -/
def people : Schema :=
  { name := "people", fields := [.tag "city", .numeric "age", .tag "first-name"] }

/-- People from Oslo, or those of other ages and from some city. -/
def agedOrFromOslo : List Clause :=
  [{ junction := .and, predicate := .test "city" (.compare .eq (.text "Oslo")) },
    { junction := .or, predicate := .nested [
      { junction := .and, predicate := .test "people.age" (.notIn [.int 30, .int 40]) },
      { junction := .and, predicate := .test "city" .notNull }] }]

/-- The references to cities and ages are read back. -/
theorem city_and_age_read :
    ({ name := "people" } : Schema).addFields people.fields = .ok people ∧
      ∃ query, ofClauses people {} agedOrFromOslo = .ok query ∧
        query.text = "@city:\x7b Oslo \x7d | " ++
          "(-(@age:[30 30] | @age:[40 40]) -@city:\x7b _null_ \x7d)" ∧
        (∀ name cs, query.ContinuesFrom name cs → RefersTo name cs) ∧
        ∃ cs, query.ContinuesFrom "age" cs := by
  have hquery : ∃ query, ofClauses people {} agedOrFromOslo = .ok query ∧
      query.text = "@city:\x7b Oslo \x7d | " ++
        "(-(@age:[30 30] | @age:[40 40]) -@city:\x7b _null_ \x7d)" := by
    refine ⟨_, rfl, ?_⟩
    rfl
  have hcity : people.resolve? "city" = some (.tag "city") := rfl
  have hage : people.resolve? "people.age" = some (.numeric "age") := rfl
  have htests : Predicate.clauseTests agedOrFromOslo =
      [("city", .compare .eq (.text "Oslo")), ("people.age", .notIn [.int 30, .int 40]),
        ("city", .notNull)] := rfl
  obtain ⟨query, hquery, htext⟩ := hquery
  obtain ⟨hread, hasked⟩ := references_read_iff hquery
  refine ⟨rfl, query, hquery, htext, ?_, ?_⟩
  · intro name cs hcontinues
    obtain ⟨column, asked, field, htest, hfield, rfl, hrefers⟩ := hread name cs hcontinues
    apply hrefers.mpr
    have hcolumn : column = "city" ∨ column = "people.age" := by
      simp only [htests, List.mem_cons, Prod.mk.injEq, List.not_mem_nil, or_false] at htest
      tauto
    rcases hcolumn with rfl | rfl
    · obtain rfl := Option.some.inj (hcity.symm.trans hfield)
      decide
    · obtain rfl := Option.some.inj (hage.symm.trans hfield)
      decide
  · obtain ⟨field, cs, hfield, hcontinues⟩ := hasked "people.age" (.notIn [.int 30, .int 40])
      (htests ▸ .tail _ (.head _))
    obtain rfl := Option.some.inj (hage.symm.trans hfield)
    exact ⟨cs, hcontinues⟩

/-- A hyphen in the name of a field stands unescaped in its clauses, and is not read as a part of
the name. -/
theorem hyphened_name_misread :
    ({ name := "people" } : Schema).addFields people.fields = .ok people ∧
      clauseText people {} .and "first-name" (.compare .eq (.text "x")) =
        .ok "@first-name:\x7b x \x7d" ∧
      ¬ RefersTo "first-name" "@first-name:\x7b x \x7d".toList ∧
      RefersTo "first-name" "@first\\-name:\x7b x \x7d".toList := by
  refine ⟨rfl, by rfl, ?_, ?_⟩
  · exact fun hrefers => absurd ((refersTo_iff "first-name" _).mp hrefers) (by decide)
  · exact refersTo_escapedTerm "first-name" _

end Query

end FullText
