import FullText.Proofs.Query.Groups
import FullText.Proofs.Query.Meaning

/-!
The structure of clause lists in the text of queries. A list of clauses means the disjunction of its
groups, each of which is the conjunction of its clauses; every clause joined by `or` begins a group.
The text that the list compiles to is read back as a formula with that meaning, however deep the
lists are nested.
-/

namespace FullText

/-! ### Clause lists -/

/-- The truth of a list whose first items have been taken: one of the groups before holds, or the
group that has begun does. -/
def joinFrom (earlier current : Prop) : List (Joined Prop) → Prop
  | [] => earlier ∨ current
  | { junction := .and, predicate } :: rest => joinFrom earlier (current ∧ predicate) rest
  | { junction := .or, predicate } :: rest => joinFrom (earlier ∨ current) predicate rest

/-- The truth of a list of joined truth values. The first of them begins a group however it is
joined. -/
def JoinedHold : List (Joined Prop) → Prop
  | [] => True
  | { junction := _, predicate } :: rest => joinFrom False predicate rest

namespace Predicate

section Meaning

variable (schema : Schema) (config : Config) (truth : String → Leaf → Prop)

mutual

/-- The meaning of a predicate. Text that is passed on as it is has none. -/
def Holds : Predicate → Prop
  | .test column asked => ∃ field, schema.resolve? column = some field ∧
      asked.Holds (truth field.name) config.nullSentinel field.type
  | .raw _ => False
  | .nested clauses => JoinedHold (clauseValues clauses)

def clauseValues : List (Joined Predicate) → List (Joined Prop)
  | [] => []
  | clause :: clauses => clauseValue clause :: clauseValues clauses

def clauseValue : Joined Predicate → Joined Prop
  | { junction, predicate } => { junction, predicate := predicate.Holds }

end

end Meaning

/-- Predicates that are built of tests and of parentheses with something in them. -/
inductive Structured : Predicate → Prop
  | test (column : String) (asked : Test) : Structured (.test column asked)
  | nested {clauses : List (Joined Predicate)} (hne : clauses ≠ [])
      (hclauses : ∀ clause ∈ clauses, Structured clause.predicate) : Structured (.nested clauses)

end Predicate

/-! ### Groups -/

namespace Query

theorem joinFrom_splitGroups (truth : String → Leaf → Prop) (earlier current : Prop)
    (parts : List (Joined Query)) :
    joinFrom earlier current (parts.map (Joined.map (Holds truth))) ↔
      earlier ∨ (current ∧ ∀ query ∈ (splitGroups parts).1, query.Holds truth) ∨
        ∃ queries ∈ (splitGroups parts).2, ∀ query ∈ queries, query.Holds truth := by
  induction parts generalizing earlier current with
  | nil => simp [joinFrom, splitGroups]
  | cons part parts ih =>
      obtain ⟨junction, query⟩ := part
      cases junction with
      | and => simp [joinFrom, Joined.map, splitGroups, ih, and_assoc]
      | or => simp [joinFrom, Joined.map, splitGroups, ih, or_assoc]

theorem joinedHold_groups (truth : String → Leaf → Prop) (parts : List (Joined Query))
    (hne : parts ≠ []) :
    JoinedHold (parts.map (Joined.map (Holds truth))) ↔
      ∃ queries ∈ groups parts, ∀ query ∈ queries, query.Holds truth := by
  obtain ⟨⟨junction, query⟩, parts, rfl⟩ := List.exists_cons_of_ne_nil hne
  rw [List.map_cons, Joined.map, JoinedHold, joinFrom_splitGroups]
  simp [groups]

theorem groups_units (parts : List (Joined Query))
    (hparts : ∀ part ∈ parts, part.predicate.IsUnit) :
    ∀ queries ∈ groups parts, ∀ query ∈ queries, query.IsUnit := by
  intro queries hqueries query hquery
  have hmem : query ∈ parts.map Joined.predicate := by
    rw [← groups_flatten]
    exact List.mem_flatten_of_mem hqueries hquery
  obtain ⟨part, hpart, rfl⟩ := List.mem_map.mp hmem
  exact hparts part hpart

/-- A group stands as one unit among alternatives. -/
theorem alternative_isUnit (queries : List Query) (hne : queries ≠ [])
    (hqueries : ∀ query ∈ queries, query.IsUnit) :
    (alternative queries).IsUnit ∧
      ∀ truth, (alternative queries).Holds truth ↔ ∀ query ∈ queries, query.Holds truth := by
  unfold alternative
  split
  · next query => exact ⟨hqueries query List.mem_cons_self, by simp⟩
  · refine ⟨.all hne hqueries, fun truth => ?_⟩
    rw [Query.Holds, Query.Holds, allHold_iff]

/-- A list of units, all of which or one of which has to hold. -/
def IsBody (query : Query) : Prop :=
  ∃ queries, queries ≠ [] ∧ (∀ query ∈ queries, query.IsUnit) ∧
    (query = .all queries ∨ query = .any queries)

theorem IsBody.bodyReadsBack {query : Query} (hquery : query.IsBody) : query.BodyReadsBack := by
  obtain ⟨queries, hne, hqueries, rfl | rfl⟩ := hquery
  · exact bodyReadsBack_all queries hne fun q hq => (hqueries q hq).readsBack
  · exact bodyReadsBack_any queries hne fun q hq => (hqueries q hq).readsBack

theorem IsBody.group_isUnit {query : Query} (hquery : query.IsBody) :
    (Query.group query).IsUnit := by
  obtain ⟨queries, hne, hqueries, rfl | rfl⟩ := hquery
  · exact .all hne hqueries
  · exact .any hne hqueries

/-- Joined units make up a list that means what the joined truth values mean. -/
theorem ofParts?_isBody (parts : List (Joined Query)) (hne : parts ≠ [])
    (hparts : ∀ part ∈ parts, part.predicate.IsUnit) :
    ∃ query, ofParts? parts = some query ∧ query.IsBody ∧
      ∀ truth, query.Holds truth ↔ JoinedHold (parts.map (Joined.map (Holds truth))) := by
  have halternative : ∀ queries ∈ groups parts, (alternative queries).IsUnit ∧
      ∀ truth, (alternative queries).Holds truth ↔ ∀ query ∈ queries, query.Holds truth :=
    fun queries hqueries => alternative_isUnit queries (groups_ne_nil parts queries hqueries)
      (groups_units parts hparts queries hqueries)
  have hsome : groups parts ≠ [] := by
    obtain ⟨part, parts, rfl⟩ := List.exists_cons_of_ne_nil hne
    exact List.cons_ne_nil _ _
  unfold ofParts?
  split
  · next hgroups => exact absurd hgroups hsome
  · next queries hgroups =>
    have hqueries : queries ∈ groups parts := hgroups ▸ List.mem_cons_self
    refine ⟨_, rfl, ⟨queries, groups_ne_nil parts queries hqueries,
      groups_units parts hparts queries hqueries, Or.inl rfl⟩, fun truth => ?_⟩
    rw [joinedHold_groups truth parts hne, hgroups, Query.Holds, allHold_iff]
    simp
  · refine ⟨_, rfl, ⟨_, by simpa using hsome, ?_, Or.inr rfl⟩, fun truth => ?_⟩
    · intro query hquery
      obtain ⟨queries, hqueries, rfl⟩ := List.mem_map.mp hquery
      exact (halternative queries hqueries).1
    · rw [joinedHold_groups truth parts hne, Query.Holds, anyHolds_iff]
      simp only [List.mem_map, exists_exists_and_eq_and]
      refine exists_congr fun queries => and_congr_right fun hqueries => ?_
      exact (halternative queries hqueries).2 truth

end Query

/-! ### Compiled clauses -/

/-- A compiled predicate: there is a query for it, which stands as one unit and means what the
predicate means. -/
def Predicate.CompilesTo (schema : Schema) (config : Config) (predicate : Predicate)
    (compiled : Option Query) : Prop :=
  ∃ query, compiled = some query ∧ query.IsUnit ∧
    ∀ truth, query.Holds truth ↔ predicate.Holds schema config truth

section Compiled

variable {schema : Schema} {config : Config}

/-- Clauses whose predicates compile make up one unit each, in their order. -/
theorem partsOf_units {clauses : List (Joined Predicate)} {parts : List (Joined Query)}
    (hclauses : ∀ clause ∈ clauses, ∀ compiled,
      Query.ofPredicate? schema config clause.predicate = .ok compiled →
        clause.predicate.CompilesTo schema config compiled)
    (h : Query.partsOf schema config clauses = .ok parts) :
    (∀ part ∈ parts, part.predicate.IsUnit) ∧
      ∀ truth, parts.map (Joined.map (Query.Holds truth)) =
        Predicate.clauseValues schema config truth clauses := by
  induction clauses generalizing parts with
  | nil =>
      obtain rfl := Except.ok.inj h
      exact ⟨by simp, fun truth => rfl⟩
  | cons clause clauses ih =>
      obtain ⟨hclause, hrest⟩ := List.forall_mem_cons.mp hclauses
      obtain ⟨junction, predicate⟩ := clause
      obtain ⟨compiled, more, hcompiled, hmore, rfl⟩ := Query.partsOf_cons_eq_ok_iff.mp h
      obtain ⟨query, rfl, hunit, hholds⟩ := hclause compiled hcompiled
      obtain ⟨hunits, hvalues⟩ := ih hrest hmore
      refine ⟨List.forall_mem_cons.mpr ⟨hunit, hunits⟩, fun truth => ?_⟩
      -- The two truth values are equal as propositions, so the lists of them are equal.
      rw [Predicate.clauseValues, Predicate.clauseValue, ← hvalues truth,
        ← propext (hholds truth)]
      rfl

theorem ofParts?_partsOf {clauses : List (Joined Predicate)} {parts : List (Joined Query)}
    (hne : clauses ≠ [])
    (hclauses : ∀ clause ∈ clauses, ∀ compiled,
      Query.ofPredicate? schema config clause.predicate = .ok compiled →
        clause.predicate.CompilesTo schema config compiled)
    (h : Query.partsOf schema config clauses = .ok parts) :
    ∃ query, Query.ofParts? parts = some query ∧ query.IsBody ∧
      ∀ truth, query.Holds truth ↔
        JoinedHold (Predicate.clauseValues schema config truth clauses) := by
  obtain ⟨hunits, hvalues⟩ := partsOf_units hclauses h
  have hparts : parts ≠ [] := by
    rintro rfl
    obtain ⟨clause, clauses, rfl⟩ := List.exists_cons_of_ne_nil hne
    cases hvalues fun _ _ => True
  obtain ⟨query, hquery, hbody, hholds⟩ := Query.ofParts?_isBody parts hparts hunits
  refine ⟨query, hquery, hbody, fun truth => ?_⟩
  rw [hholds truth, hvalues truth]

/-- A predicate compiles to a unit that means the predicate. -/
theorem ofPredicate?_compilesTo (hnames : ∀ field ∈ schema.fields, Plain field.name)
    (hsentinel : Plain config.nullSentinel) {predicate : Predicate}
    (hpredicate : predicate.Structured) (compiled : Option Query)
    (h : Query.ofPredicate? schema config predicate = .ok compiled) :
    predicate.CompilesTo schema config compiled := by
  -- Parentheses compile through the list inside of them, whose clauses are smaller predicates.
  induction hpredicate generalizing compiled with
  | test column asked =>
      rw [Query.ofPredicate?] at h
      obtain ⟨query, hquery, rfl⟩ := map_eq_ok_iff.mp h
      obtain ⟨field, hfield, hunit, hholds⟩ := ofTest_says hnames hsentinel hquery
      refine ⟨query, rfl, hunit, fun truth => ?_⟩
      rw [hholds, Predicate.Holds]
      simp [hfield]
  | nested hne _ ih =>
      rw [Query.ofPredicate?] at h
      obtain ⟨parts, hparts, rfl⟩ := bind_pure_eq_ok_iff.mp h
      obtain ⟨query, hquery, hbody, hholds⟩ := ofParts?_partsOf hne ih hparts
      refine ⟨.group query, by rw [hquery]; rfl, hbody.group_isUnit, fun truth => ?_⟩
      rw [Query.Holds, hholds truth, Predicate.Holds]

/-- The text of a compiled list of clauses has the structure of the list: it is read back as a
formula that holds exactly when the list does, whatever holds of the fields. -/
theorem compiled_structure (hnames : ∀ field ∈ schema.fields, Plain field.name)
    (hsentinel : Plain config.nullSentinel) {clauses : List Clause} (hne : clauses ≠ [])
    (hclauses : ∀ clause ∈ clauses, clause.predicate.Structured) {text : String}
    (h : (Query.ofClauses schema config clauses).map Query.text = .ok text) :
    ∃ formula, Formula.read? text = some formula ∧
      ∀ truth, formula.Holds truth ↔
        JoinedHold (Predicate.clauseValues schema config truth clauses) := by
  obtain ⟨query, hquery, rfl⟩ := map_eq_ok_iff.mp h
  obtain ⟨parts, hparts, hquery⟩ := bind_pure_eq_ok_iff.mp hquery
  have hcompile : ∀ clause ∈ clauses, ∀ compiled,
      Query.ofPredicate? schema config clause.predicate = .ok compiled →
        clause.predicate.CompilesTo schema config compiled :=
    fun clause hclause => ofPredicate?_compilesTo hnames hsentinel (hclauses clause hclause)
  obtain ⟨body, hbody, hisBody, hholds⟩ := ofParts?_partsOf hne hcompile hparts
  rw [hbody] at hquery
  obtain rfl : body = query := hquery
  obtain ⟨formula, hread, hformula⟩ := read?_of_bodyReadsBack body hisBody.bodyReadsBack
  exact ⟨formula, hread, fun truth => (hformula truth).trans (hholds truth)⟩

end Compiled

/-- An index with tags and titles. -/
def shop : Schema :=
  { name := "shop", fields := [.tag "color", .text "title"] }

/-- Two colors, one of which holds a bar, or a title that is neither null nor a quoted word. -/
def shopClauses : List Clause :=
  [{ junction := .and, predicate := .test "color" (.isIn [.text "re|d", .text "blue"]) },
    { junction := .or, predicate := .nested
        [{ junction := .or, predicate := .test "shop.title" (.compare .ne (.text "a \"b\"")) },
          { junction := .and, predicate := .test "title" .notNull }] }]

theorem shop_structure :
    ∃ formula, Formula.read?
        "@color:\x7b re\\|d | blue \x7d | (-@title:\"a \\\"b\\\"\" -@title:_null_)" = some formula ∧
      ∀ truth, formula.Holds truth ↔
        JoinedHold (Predicate.clauseValues shop {} truth shopClauses) := by
  have hnested : (Predicate.nested
      [{ junction := .or, predicate := .test "shop.title" (.compare .ne (.text "a \"b\"")) },
        { junction := .and, predicate := .test "title" .notNull }]).Structured :=
    .nested (List.cons_ne_nil _ _)
      (List.forall_mem_cons.mpr ⟨.test _ _, List.forall_mem_singleton.mpr (.test _ _)⟩)
  have hclauses : ∀ clause ∈ shopClauses, clause.predicate.Structured :=
    List.forall_mem_cons.mpr ⟨.test _ _, List.forall_mem_singleton.mpr hnested⟩
  have htext : (Query.ofClauses shop {} shopClauses).map Query.text =
      .ok "@color:\x7b re\\|d | blue \x7d | (-@title:\"a \\\"b\\\"\" -@title:_null_)" := by
    rfl
  exact compiled_structure (by decide) (by decide) (List.cons_ne_nil _ _) hclauses htext

end FullText
