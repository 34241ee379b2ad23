import FullText.Proofs.Query.Operands
import FullText.Proofs.Query.ReadBack

/-!
What predicates mean, and that the queries they compile to mean the same. The meaning of a test is
stated over truth values of leaves on its field: an equality asks for one leaf, a membership for one
of several, and the negative tests are the negations of the positive ones. A test compiles to a unit
with that meaning.
-/

namespace FullText

/-! ### Tests -/

/-- The range between two written ends. An end that is left out has a parenthesis in front. -/
def Leaf.between (low high : String) : Leaf :=
  .range (low ++ " " ++ high)

/-- What an equality with a scalar asks of a field. -/
def FieldType.equality? (type : FieldType) (v : Value) : Option Leaf :=
  match type with
  | .text .. => v.render?.map .phrase
  | .tag .. => v.render?.map .tag
  | .numeric .. => v.numeral?.map fun n => .between n.text n.text
  | .geo .. | .geoShape .. | .vector .. => none

section Meaning

variable (truth : Leaf → Prop) (sentinel : String) (type : FieldType)

def FieldType.HasOneOf (values : List Value) : Prop :=
  ∃ v ∈ values, ∃ leaf, type.equality? v = some leaf ∧ truth leaf

/-- The field is null. Null is a term of its own in texts and tags; a number is null when it lies
in no range at all. -/
def FieldType.IsNull : Prop :=
  match type with
  | .text .. => truth (.term sentinel)
  | .tag .. => truth (.tag sentinel)
  | .numeric .. => ¬ truth (.between "-inf" "+inf")
  | .geo .. | .geoShape .. | .vector .. => False

/-- The field equals a value: it is null if the value is, and one of its items if it is a list. -/
def FieldType.Equals (v : Value) : Prop :=
  match v.resolved with
  | .null => type.IsNull truth sentinel
  | .list values => type.HasOneOf truth values
  | _ => type.HasOneOf truth [v]

def Between (low high : Value) : Prop :=
  ∃ m n, low.numeral? = some m ∧ high.numeral? = some n ∧
    truth (.between m.text n.text)

/-- The field lies in the range that one number makes up. -/
def Beside (v : Value) (range : String → Leaf) : Prop :=
  ∃ n, v.numeral? = some n ∧ truth (range n.text)

/-- The meaning of a test of a field. -/
def Test.Holds : Test → Prop
  | .compare .eq v => type.Equals truth sentinel v
  | .compare .ne v => ¬ type.Equals truth sentinel v
  | .compare .gt v => Beside truth v fun number => .between ("(" ++ number) "+inf"
  | .compare .gte v => Beside truth v fun number => .between number "+inf"
  | .compare .lt v => Beside truth v fun number => .between "-inf" ("(" ++ number)
  | .compare .lte v => Beside truth v fun number => .between "-inf" number
  | .compare .like v => ∃ pattern, v.render? = some pattern ∧
      truth (.stem (Text.strip (fun c => c == '%' || c == '*') pattern))
  | .isIn values => type.HasOneOf truth values
  | .notIn values => ¬ type.HasOneOf truth values
  | .isNull => type.IsNull truth sentinel
  | .notNull => ¬ type.IsNull truth sentinel
  | .between low high => Between truth low high
  | .notBetween low high => ¬ Between truth low high
  | .near lon lat radius unit =>
      truth (.range (Decimal.text lon ++ " " ++ Decimal.text lat ++ " " ++ Decimal.text radius ++
        " " ++ unit.keyword))
  | .unknown .. => False

end Meaning

section Meaning

variable {truth : Leaf → Prop} {sentinel : String} {type : FieldType}

theorem FieldType.hasOneOf_singleton {v : Value} {leaf : Leaf}
    (hleaf : type.equality? v = some leaf) : type.HasOneOf truth [v] ↔ truth leaf := by
  simp [FieldType.HasOneOf, hleaf]

theorem FieldType.hasOneOf_iff {α : Type} {leaf : α → Leaf} {values : List Value} {items : List α}
    (h : List.Forall₂ (fun v item => type.equality? v = some (leaf item)) values items) :
    type.HasOneOf truth values ↔ ∃ item ∈ items, truth (leaf item) := by
  induction h with
  | nil => simp [FieldType.HasOneOf]
  | cons hleaf _ ih =>
      simp only [FieldType.HasOneOf] at ih
      simp [FieldType.HasOneOf, hleaf, ih]

/-- Neither null nor a list has a leaf of its own. -/
theorem FieldType.equals_scalar {v : Value} {leaf : Leaf}
    (hleaf : type.equality? v = some leaf) : type.Equals truth sentinel v ↔ truth leaf := by
  have hscalar : v.resolved ≠ .null ∧ ∀ values, v.resolved ≠ .list values := by
    cases type with
    | text =>
        obtain ⟨s, hs, -⟩ := Option.map_eq_some_iff.mp hleaf
        exact Value.scalar_of_render? hs
    | tag =>
        obtain ⟨s, hs, -⟩ := Option.map_eq_some_iff.mp hleaf
        exact Value.scalar_of_render? hs
    | numeric =>
        obtain ⟨n, hn, -⟩ := Option.map_eq_some_iff.mp hleaf
        exact Value.scalar_of_numeral? hn
    | geo => cases hleaf
    | geoShape => cases hleaf
    | vector => cases hleaf
  have hone : type.HasOneOf truth [v] ↔ truth leaf := FieldType.hasOneOf_singleton hleaf
  rw [← hone, FieldType.Equals]
  split
  · next hnull => exact absurd hnull hscalar.1
  · next values hlist => exact absurd hlist (hscalar.2 values)
  · rfl

/-- Writing out the shorthands of a test does not change what it means. -/
theorem Test.written_holds {column : String} {asked written : Test}
    (h : asked.written column = .ok written) :
    written.Holds truth sentinel type ↔ asked.Holds truth sentinel type := by
  unfold Test.written at h
  split at h
  · next operator v =>
    split at h
    · next hv =>
      obtain rfl := Except.ok.inj h
      simp only [Test.Holds, FieldType.Equals, hv]
    · next hv =>
      obtain rfl := Except.ok.inj h
      simp only [Test.Holds, FieldType.Equals, hv]
    · next values hv =>
      obtain rfl := Except.ok.inj h
      simp only [Test.Holds, FieldType.Equals, hv]
    · next values hv =>
      obtain rfl := Except.ok.inj h
      simp only [Test.Holds, FieldType.Equals, hv]
    · cases h
    · cases h
    · obtain rfl := Except.ok.inj h
      rfl
  · obtain rfl := Except.ok.inj h
    rfl

end Meaning

/-! ### Tests as queries -/

/-- The query of a test: it stands as one unit, and it means what the test means. -/
def Query.Says (query : Query) (name sentinel : String) (type : FieldType) (asked : Test) : Prop :=
  query.IsUnit ∧
    ∀ truth, query.Holds truth ↔ asked.Holds (truth name) sentinel type

section Compiled

variable {config : Config} {column name sentinel : String} {type : FieldType} {asked : Test}
  {query : Query}

theorem Query.Says.not {negated : Test} (hquery : query.Says name sentinel type asked)
    (hnegated : ∀ truth, negated.Holds truth sentinel type ↔ ¬ asked.Holds truth sentinel type) :
    (Query.not query).Says name sentinel type negated := by
  refine ⟨.not hquery.1, fun truth => ?_⟩
  rw [Query.Holds, hnegated, hquery.2]

variable (hname : Plain name)
include hname

/-- The clause for a test that asks for one leaf. -/
theorem says_leaf (condition : Condition) {leaf : Leaf} (hcondition : condition.Readable)
    (hleaf : condition.leaves = [leaf])
    (hasked : ∀ truth, asked.Holds truth sentinel type ↔ truth leaf) :
    (Query.field name condition).Says name sentinel type asked := by
  refine ⟨.field hname hcondition, fun truth => ?_⟩
  rw [Query.Holds, hasked, hleaf]
  simp

/-- The clause for a membership in several texts, of which there is at least one. -/
theorem says_isIn (condition : List String → Condition) {values : List Value} {texts : List String}
    {leaf : String → Leaf} (hcondition : texts ≠ [] → (condition texts).Readable)
    (hleaves : (condition texts).leaves = texts.map leaf)
    (htype : ∀ v, type.equality? v = v.render?.map leaf)
    (htexts : operands (scalarOperand column) column values = .ok texts) :
    (Query.field name (condition texts)).Says name sentinel type (.isIn values) := by
  obtain ⟨hne, hread⟩ := operands_eq_ok_iff.mp htexts
  have hitems : List.Forall₂ (fun v text => type.equality? v = some (leaf text)) values texts :=
    hread.imp fun v text h => by rw [htype, scalarOperand_eq_ok_iff.mp h, Option.map_some]
  have hsome : texts ≠ [] := by
    rintro rfl
    exact hne (List.forall₂_nil_right_iff.mp hread)
  refine ⟨.field hname (hcondition hsome), fun truth => ?_⟩
  rw [Query.Holds, Test.Holds, FieldType.hasOneOf_iff hitems, hleaves]
  simp

/-- One of several numbers is asked for by one clause each. -/
theorem says_anyNumber {values : List Value} {numbers : List Numeral} {sortable noIndex : Bool}
    (hnumbers : operands (numericOperand column) column values = .ok numbers) :
    (Query.anyNumber name numbers).Says name sentinel (.numeric sortable noIndex)
      (.isIn values) := by
  obtain ⟨hne, hread⟩ := operands_eq_ok_iff.mp hnumbers
  have hitems : List.Forall₂ (fun v (n : Numeral) =>
      (FieldType.numeric sortable noIndex).equality? v = some (.between n.text n.text))
      values numbers :=
    hread.imp fun v n h => by
      rw [FieldType.equality?, numericOperand_eq_ok_iff.mp h, Option.map_some]
  have hunit : ∀ n, (Query.field name (Query.exactly n)).IsUnit := fun n => .field hname trivial
  have hholds (truth : String → Leaf → Prop) (n : Numeral) :
      (Query.field name (Query.exactly n)).Holds truth ↔ truth name (.between n.text n.text) := by
    simp [Query.Holds, Query.exactly, Condition.leaves, Bound.text, Leaf.between]
  unfold Query.anyNumber
  split
  · next query hquery =>
    obtain ⟨n, rfl, rfl⟩ := List.map_eq_singleton_iff.mp hquery
    refine ⟨hunit n, fun truth => ?_⟩
    rw [Test.Holds, FieldType.hasOneOf_iff hitems, hholds]
    simp
  · have hsome : numbers.map (fun n => Query.field name (Query.exactly n)) ≠ [] := by
      intro h
      obtain rfl := List.map_eq_nil_iff.mp h
      exact hne (List.forall₂_nil_right_iff.mp hread)
    refine ⟨.any hsome ?_, fun truth => ?_⟩
    · intro query hquery
      obtain ⟨n, -, rfl⟩ := List.mem_map.mp hquery
      exact hunit n
    · rw [Test.Holds, FieldType.hasOneOf_iff hitems, Query.Holds, Query.Holds, Query.anyHolds_iff]
      simp [hholds]

theorem says_equals (condition : Condition) {v : Value} {text : String} {leaf : String → Leaf}
    (hcondition : condition.Readable) (hleaf : condition.leaves = [leaf text])
    (htype : ∀ v, type.equality? v = v.render?.map leaf)
    (htext : scalarOperand column v = .ok text) :
    (Query.field name condition).Says name sentinel type (.compare .eq v) := by
  apply says_leaf hname condition hcondition hleaf
  intro truth
  apply FieldType.equals_scalar
  rw [htype, scalarOperand_eq_ok_iff.mp htext, Option.map_some]

theorem says_exactly {v : Value} {n : Numeral} {sortable noIndex : Bool}
    (hn : numericOperand column v = .ok n) :
    (Query.field name (Query.exactly n)).Says name sentinel (.numeric sortable noIndex)
      (.compare .eq v) := by
  apply says_leaf hname (Query.exactly n) trivial rfl
  intro truth
  apply FieldType.equals_scalar
  rw [FieldType.equality?, numericOperand_eq_ok_iff.mp hn]
  rfl

/-- The clause for a comparison with one number, which is an end of the range. -/
theorem says_beside {v : Value} {n : Numeral} (range : String → Leaf) (low high : Bound)
    (hn : numericOperand column v = .ok n)
    (hleaf : (Condition.range low high).leaves = [range n.text])
    (hasked : ∀ truth, asked.Holds truth sentinel type ↔ Beside truth v range) :
    (Query.field name (.range low high)).Says name sentinel type asked := by
  apply says_leaf hname (.range low high) trivial hleaf
  intro truth
  rw [hasked, Beside, numericOperand_eq_ok_iff.mp hn]
  simp

theorem says_between {low high : Value} (h : Query.between column name low high = .ok query) :
    query.Says name sentinel type (.between low high) := by
  obtain ⟨m, hm, h⟩ := bind_eq_ok_iff.mp h
  obtain ⟨n, hn, rfl⟩ := bind_pure_eq_ok_iff.mp h
  apply says_leaf hname (.range (.inclusive m) (.inclusive n)) trivial rfl
  intro truth
  simp [Test.Holds, Between, numericOperand_eq_ok_iff.mp hm, numericOperand_eq_ok_iff.mp hn,
    Leaf.between, Bound.text]

end Compiled

section Types

variable {config : Config} {column name : String} (hname : Plain name)
  (hsentinel : Plain config.nullSentinel)
include hname hsentinel

/-- What a test of a text field compiles to means the test. -/
theorem ofTextTest?_says {asked : Test} {query : Query} {weight : Float}
    {noStem sortable noIndex : Bool}
    (h : Query.ofTextTest? config column name asked = some (.ok query)) :
    query.Says name config.nullSentinel (.text weight noStem sortable noIndex) asked := by
  have hequals {v : Value} {text : String} (htext : scalarOperand column v = .ok text) :
      (Query.field name (.phrase text)).Says name config.nullSentinel
        (.text weight noStem sortable noIndex) (.compare .eq v) :=
    says_equals hname (.phrase text) trivial rfl (fun _ => rfl) htext
  have hin {values : List Value} {texts : List String}
      (htexts : operands (scalarOperand column) column values = .ok texts) :
      (Query.field name (.anyPhrase texts)).Says name config.nullSentinel
        (.text weight noStem sortable noIndex) (.isIn values) :=
    says_isIn hname .anyPhrase id rfl (fun _ => rfl) htexts
  have hnull : (Query.field name (.nullTerm config.nullSentinel)).Says name config.nullSentinel
      (.text weight noStem sortable noIndex) .isNull :=
    says_leaf hname (.nullTerm _) hsentinel rfl fun truth => Iff.rfl
  unfold Query.ofTextTest? at h
  split at h
  · next v =>
    obtain ⟨text, htext, rfl⟩ := bind_pure_eq_ok_iff.mp (Option.some.inj h)
    exact hequals htext
  · next v =>
    obtain ⟨text, htext, rfl⟩ := bind_pure_eq_ok_iff.mp (Option.some.inj h)
    exact (hequals htext).not fun truth => Iff.rfl
  · next v =>
    obtain ⟨pattern, hpattern, h⟩ := bind_eq_ok_iff.mp (Option.some.inj h)
    dsimp only at h
    split at h
    · cases h
    · obtain rfl := Except.ok.inj h
      have hrender := scalarOperand_eq_ok_iff.mp hpattern
      exact says_leaf hname (.startingWith _) trivial rfl fun truth => by
        simp [Test.Holds, hrender]
  · next values =>
    obtain ⟨texts, htexts, rfl⟩ := bind_pure_eq_ok_iff.mp (Option.some.inj h)
    exact hin htexts
  · next values =>
    obtain ⟨texts, htexts, rfl⟩ := bind_pure_eq_ok_iff.mp (Option.some.inj h)
    exact (hin htexts).not fun truth => Iff.rfl
  · obtain rfl := Except.ok.inj (Option.some.inj h)
    exact hnull
  · obtain rfl := Except.ok.inj (Option.some.inj h)
    exact hnull.not fun truth => Iff.rfl
  · cases h

theorem ofTagTest?_says {asked : Test} {query : Query} {separator : String}
    {sortable noIndex : Bool}
    (h : Query.ofTagTest? config column name asked = some (.ok query)) :
    query.Says name config.nullSentinel (.tag separator sortable noIndex) asked := by
  have hequals {v : Value} {text : String} (htext : scalarOperand column v = .ok text) :
      (Query.field name (.anyTag [text])).Says name config.nullSentinel
        (.tag separator sortable noIndex) (.compare .eq v) :=
    says_equals hname (.anyTag [text]) (List.cons_ne_nil _ _) rfl (fun _ => rfl) htext
  have hin {values : List Value} {texts : List String}
      (htexts : operands (scalarOperand column) column values = .ok texts) :
      (Query.field name (.anyTag texts)).Says name config.nullSentinel
        (.tag separator sortable noIndex) (.isIn values) :=
    says_isIn hname .anyTag id rfl (fun _ => rfl) htexts
  have hnull : (Query.field name (.nullTag config.nullSentinel)).Says name config.nullSentinel
      (.tag separator sortable noIndex) .isNull :=
    says_leaf hname (.nullTag _) hsentinel rfl fun truth => Iff.rfl
  unfold Query.ofTagTest? at h
  split at h
  · next v =>
    obtain ⟨text, htext, rfl⟩ := bind_pure_eq_ok_iff.mp (Option.some.inj h)
    exact hequals htext
  · next v =>
    obtain ⟨text, htext, rfl⟩ := bind_pure_eq_ok_iff.mp (Option.some.inj h)
    exact (hequals htext).not fun truth => Iff.rfl
  · next values =>
    obtain ⟨texts, htexts, rfl⟩ := bind_pure_eq_ok_iff.mp (Option.some.inj h)
    exact hin htexts
  · next values =>
    obtain ⟨texts, htexts, rfl⟩ := bind_pure_eq_ok_iff.mp (Option.some.inj h)
    exact (hin htexts).not fun truth => Iff.rfl
  · obtain rfl := Except.ok.inj (Option.some.inj h)
    exact hnull
  · obtain rfl := Except.ok.inj (Option.some.inj h)
    exact hnull.not fun truth => Iff.rfl
  · cases h

omit hsentinel in
theorem ofNumericTest?_says {asked : Test} {query : Query} {sortable noIndex : Bool}
    (h : Query.ofNumericTest? column name asked = some (.ok query)) :
    query.Says name config.nullSentinel (.numeric sortable noIndex) asked := by
  have hnotNull : (Query.field name (.range .bottom .top)).Says name config.nullSentinel
      (.numeric sortable noIndex) .notNull :=
    says_leaf hname (.range .bottom .top) trivial rfl fun truth => not_not
  unfold Query.ofNumericTest? at h
  split at h
  · cases h
  · next v =>
    obtain ⟨n, hn, rfl⟩ := bind_pure_eq_ok_iff.mp (Option.some.inj h)
    exact says_exactly hname hn
  · next v =>
    obtain ⟨n, hn, rfl⟩ := bind_pure_eq_ok_iff.mp (Option.some.inj h)
    exact (says_exactly hname hn).not fun truth => Iff.rfl
  · next v =>
    obtain ⟨n, hn, rfl⟩ := bind_pure_eq_ok_iff.mp (Option.some.inj h)
    exact says_beside hname (fun number => .between ("(" ++ number) "+inf") _ _ hn rfl fun truth =>
      Iff.rfl
  · next v =>
    obtain ⟨n, hn, rfl⟩ := bind_pure_eq_ok_iff.mp (Option.some.inj h)
    exact says_beside hname (fun number => .between number "+inf") _ _ hn rfl fun truth =>
      Iff.rfl
  · next v =>
    obtain ⟨n, hn, rfl⟩ := bind_pure_eq_ok_iff.mp (Option.some.inj h)
    exact says_beside hname (fun number => .between "-inf" ("(" ++ number)) _ _ hn rfl fun truth =>
      Iff.rfl
  · next v =>
    obtain ⟨n, hn, rfl⟩ := bind_pure_eq_ok_iff.mp (Option.some.inj h)
    exact says_beside hname (fun number => .between "-inf" number) _ _ hn rfl fun truth =>
      Iff.rfl
  · next values =>
    obtain ⟨numbers, hnumbers, rfl⟩ := bind_pure_eq_ok_iff.mp (Option.some.inj h)
    exact says_anyNumber hname hnumbers
  · next values =>
    obtain ⟨numbers, hnumbers, rfl⟩ := bind_pure_eq_ok_iff.mp (Option.some.inj h)
    exact (says_anyNumber hname hnumbers).not fun truth => Iff.rfl
  · exact says_between hname (Option.some.inj h)
  · obtain ⟨query, hquery, rfl⟩ := map_eq_ok_iff.mp (Option.some.inj h)
    exact (says_between hname hquery).not fun truth => Iff.rfl
  · obtain rfl := Except.ok.inj (Option.some.inj h)
    exact hnotNull.not fun truth => not_not.symm
  · obtain rfl := Except.ok.inj (Option.some.inj h)
    exact hnotNull
  · cases h

omit hsentinel in
theorem ofGeoTest?_says {asked : Test} {query : Query} {noIndex : Bool}
    (h : Query.ofGeoTest? column name asked = some (.ok query)) :
    query.Says name config.nullSentinel (.geo noIndex) asked := by
  unfold Query.ofGeoTest? at h
  split at h
  · next lon lat radius unit =>
    have h := Option.some.inj h
    split at h
    · cases h
    · split at h
      · cases h
      · obtain rfl := Except.ok.inj h
        exact says_leaf hname (.circle lon lat radius unit) trivial rfl fun truth => Iff.rfl
  · cases h

end Types

/-- A test of a column compiles to a unit that means the test of the field that the column
names. -/
theorem ofTest_says {schema : Schema} {config : Config} {column : String} {asked : Test}
    {query : Query} (hnames : ∀ field ∈ schema.fields, Plain field.name)
    (hsentinel : Plain config.nullSentinel)
    (h : Query.ofTest schema config column asked = .ok query) :
    ∃ field, schema.resolve? column = some field ∧
      query.Says field.name config.nullSentinel field.type asked := by
  obtain ⟨field, hfield, written, hwritten, hquery⟩ := Query.ofTest_eq_ok_iff.mp h
  have hname := hnames field (List.mem_of_find?_eq_some hfield)
  have hmeaning : query.Says field.name config.nullSentinel field.type written := by
    unfold Query.ofFieldTest? at hquery
    split at hquery
    · next htype => exact htype ▸ ofTextTest?_says hname hsentinel hquery
    · next htype => exact htype ▸ ofNumericTest?_says hname hquery
    · next htype => exact htype ▸ ofTagTest?_says hname hsentinel hquery
    · next htype => exact htype ▸ ofGeoTest?_says hname hquery
    · cases hquery
    · cases hquery
  exact ⟨field, hfield, hmeaning.1, fun truth =>
    (hmeaning.2 truth).trans (Test.written_holds hwritten)⟩

end FullText
