import FullText.Proofs.Query.FieldClauses
import FullText.Proofs.Schema.Extension

/-!
Columns with the name of the index in front. A request with a command has the same command when any
of its columns are written with the name of the index in front, and whatever a column is written
into, it is the name of its field that is written.
-/

namespace FullText

/-- Another spelling of a column: the column as it is, or with the name of the index in front if it
does not have that already. -/
def Schema.Respells (schema : Schema) (column other : String) : Prop :=
  other = column ∨ ¬ schema.IsQualified column ∧ other = schema.qualified column

theorem Schema.Respells.bareColumn {schema : Schema} {column other : String}
    (hcolumn : schema.Respells column other) :
    schema.bareColumn other = schema.bareColumn column := by
  rcases hcolumn with rfl | ⟨hbare, rfl⟩
  · rfl
  · rw [bareColumn_qualified, bareColumn_eq_self_iff.mpr hbare]

theorem Schema.Respells.resolve? {schema : Schema} {column other : String}
    (hcolumn : schema.Respells column other) :
    schema.resolve? other = schema.resolve? column := by
  rw [Schema.resolve?, Schema.resolve?, hcolumn.bareColumn]

/-! ### Other spellings of the columns of a request -/

mutual

/-- A predicate with some of its columns spelled in another way. -/
inductive Predicate.Respelled (schema : Schema) : Predicate → Predicate → Prop
  | test {column other : String} (hcolumn : schema.Respells column other) (asked : Test) :
      Predicate.Respelled schema (.test column asked) (.test other asked)
  | raw (query : String) : Predicate.Respelled schema (.raw query) (.raw query)
  | nested {clauses others : List (Joined Predicate)}
      (hclauses : ClausesRespelled schema clauses others) :
      Predicate.Respelled schema (.nested clauses) (.nested others)

/-- Clauses with some of their columns spelled in another way. -/
inductive ClausesRespelled (schema : Schema) :
    List (Joined Predicate) → List (Joined Predicate) → Prop
  | nil : ClausesRespelled schema [] []
  | cons (junction : Junction) {predicate other : Predicate}
      {clauses others : List (Joined Predicate)}
      (hpredicate : Predicate.Respelled schema predicate other)
      (hclauses : ClausesRespelled schema clauses others) :
      ClausesRespelled schema ({ junction, predicate } :: clauses)
        ({ junction, predicate := other } :: others)

end

inductive Projection.Respelled (schema : Schema) : Projection → Projection → Prop
  | all : Projection.Respelled schema .all .all
  | columns {names others : List String} (hnames : List.Forall₂ schema.Respells names others) :
      Projection.Respelled schema (.columns names) (.columns others)

/-- A sort key with its column spelled in another way. -/
structure SortKey.Respelled (schema : Schema) (sort other : SortKey) : Prop where
  column : schema.Respells sort.column other.column
  direction : other.direction = sort.direction

/-- A request with some of its columns spelled in another way. -/
structure Request.Respelled (schema : Schema) (request other : Request) : Prop where
  clauses : ClausesRespelled schema request.clauses other.clauses
  sorts : List.Forall₂ (SortKey.Respelled schema) request.sorts other.sorts
  projection : Projection.Respelled schema request.projection other.projection
  index : other.index = request.index
  offset : other.offset = request.offset
  limit : other.limit = request.limit
  noContent : other.noContent = request.noContent

/-! ### Queries -/

/-- A result that is kept. What becomes of errors, which name the column as it is spelled, does not
matter. -/
abbrev ResultKept {α : Type} (before after : Except Error α) : Prop :=
  Kept (fun _ => True) before after

theorem ResultKept.of_ok {α : Type} {before after : Except Error α}
    (hok : ∀ a, before = .ok a → after = .ok a) : ResultKept before after :=
  ⟨hok, fun _ _ hnot => absurd trivial hnot⟩

theorem Schema.Respells.resolve {schema : Schema} {column other : String}
    (hcolumn : schema.Respells column other) :
    ResultKept (schema.resolve column) (schema.resolve other) := by
  refine .of_ok fun field hfield => ?_
  rw [Schema.resolve_eq_ok_iff] at hfield ⊢
  exact hcolumn.resolve?.trans hfield

section Operands

variable {α : Type} (column other : String)

theorem scalarOperand_respelled (v : Value) :
    ResultKept (scalarOperand column v) (scalarOperand other v) :=
  .of_ok fun _ hs => scalarOperand_eq_ok_iff.mpr (scalarOperand_eq_ok_iff.mp hs)

theorem numericOperand_respelled (v : Value) :
    ResultKept (numericOperand column v) (numericOperand other v) :=
  .of_ok fun _ hn => numericOperand_eq_ok_iff.mpr (numericOperand_eq_ok_iff.mp hn)

theorem operands_respelled {read reread : Value → Except Error α}
    (hread : ∀ v, ResultKept (read v) (reread v)) (values : List Value) :
    ResultKept (operands read column values) (operands reread other values) := by
  unfold operands
  split
  case isTrue => exact .of_mended trivial _
  case isFalse => exact .mapM hread values

theorem Test.written_respelled (asked : Test) :
    ResultKept (asked.written column) (asked.written other) := by
  cases asked with
  | compare operator v =>
      unfold written
      dsimp only
      split
      case h_5 => exact .of_mended trivial _
      case h_6 => exact .of_mended trivial _
      all_goals exact .refl _
  | _ => exact .refl _

end Operands

namespace Query

/-- What a field makes of one test it makes of another one as well. -/
def TestKept (before after : Option (Except Error Query)) : Prop :=
  ∀ query, before = some (.ok query) → after = some (.ok query)

theorem TestKept.refl (compiled : Option (Except Error Query)) : TestKept compiled compiled :=
  fun _ => id

theorem TestKept.of_result {before after : Except Error Query} (hkept : ResultKept before after) :
    TestKept (some before) (some after) :=
  fun query hquery => congrArg some (hkept.ok query (Option.some.inj hquery))

theorem TestKept.of_read {α : Type} {before after : Except Error α}
    (hkept : ResultKept before after) (f : α → Query) :
    TestKept (some (before >>= fun a => pure (f a))) (some (after >>= fun a => pure (f a))) :=
  .of_result (hkept.bind fun _ => .refl _)

section Kinds

variable (config : Config) (column other name : String) (asked : Test)

theorem ofTextTest?_respelled :
    TestKept (ofTextTest? config column name asked) (ofTextTest? config other name asked) := by
  have hscalar := scalarOperand_respelled column other
  cases asked with
  | compare operator v =>
      cases operator with
      | eq => exact .of_read (hscalar v) _
      | ne => exact .of_read (hscalar v) _
      | like =>
          refine .of_result ((hscalar v).bind fun s => ?_)
          dsimp only
          split
          case isTrue => exact .of_mended trivial _
          case isFalse => exact .refl _
      | _ => exact .refl _
  | isIn values => exact .of_read (operands_respelled column other hscalar values) _
  | notIn values => exact .of_read (operands_respelled column other hscalar values) _
  | _ => exact .refl _

theorem ofTagTest?_respelled :
    TestKept (ofTagTest? config column name asked) (ofTagTest? config other name asked) := by
  have hscalar := scalarOperand_respelled column other
  cases asked with
  | compare operator v =>
      cases operator with
      | eq => exact .of_read (hscalar v) _
      | ne => exact .of_read (hscalar v) _
      | _ => exact .refl _
  | isIn values => exact .of_read (operands_respelled column other hscalar values) _
  | notIn values => exact .of_read (operands_respelled column other hscalar values) _
  | _ => exact .refl _

theorem between_respelled (low high : Value) :
    ResultKept (between column name low high) (between other name low high) := by
  refine (numericOperand_respelled column other low).bind fun m => ?_
  exact (numericOperand_respelled column other high).bind fun n => .refl _

theorem ofNumericTest?_respelled :
    TestKept (ofNumericTest? column name asked) (ofNumericTest? other name asked) := by
  have hnumeric := numericOperand_respelled column other
  cases asked with
  | compare operator v =>
      cases operator with
      | like => exact .refl _
      | _ => exact .of_read (hnumeric v) _
  | isIn values => exact .of_read (operands_respelled column other hnumeric values) _
  | notIn values => exact .of_read (operands_respelled column other hnumeric values) _
  | between low high => exact .of_result (between_respelled column other name low high)
  | notBetween low high =>
      exact .of_result ((between_respelled column other name low high).map Query.not)
  | _ => exact .refl _

theorem ofGeoTest?_respelled :
    TestKept (ofGeoTest? column name asked) (ofGeoTest? other name asked) := by
  cases asked with
  | near lon lat radius unit =>
      refine .of_result ?_
      split
      case isTrue => exact .of_mended trivial _
      case isFalse =>
        split
        case isTrue => exact .of_mended trivial _
        case isFalse => exact .refl _
  | _ => exact .refl _

theorem ofFieldTest?_respelled (field : Field) :
    TestKept (ofFieldTest? config column field asked) (ofFieldTest? config other field asked) := by
  obtain ⟨name, type⟩ := field
  cases type with
  | text => exact ofTextTest?_respelled config column other name asked
  | numeric => exact ofNumericTest?_respelled column other name asked
  | tag => exact ofTagTest?_respelled config column other name asked
  | geo => exact ofGeoTest?_respelled column other name asked
  | geoShape => exact .refl _
  | vector => exact .refl _

end Kinds

variable {schema : Schema}

theorem ofTest_respelled {column other : String} (hcolumn : schema.Respells column other)
    (config : Config) (asked : Test) :
    ResultKept (ofTest schema config column asked) (ofTest schema config other asked) := by
  refine .of_ok fun query hquery => ?_
  obtain ⟨field, hfield, written, hwritten, hquery⟩ := ofTest_eq_ok_iff.mp hquery
  have hother : asked.written other = .ok written :=
    (asked.written_respelled column other).ok written hwritten
  exact ofTest_eq_ok (hcolumn.resolve?.trans hfield) hother
    (ofFieldTest?_respelled config column other written field query hquery)

variable (config : Config)

mutual

theorem ofPredicate?_respelled {predicate other : Predicate}
    (hrespelled : predicate.Respelled schema other) :
    ResultKept (ofPredicate? schema config predicate) (ofPredicate? schema config other) := by
  cases hrespelled with
  | test hcolumn asked =>
      rw [ofPredicate?, ofPredicate?]
      exact (ofTest_respelled hcolumn config asked).map some
  | raw query => exact .refl _
  | nested hclauses =>
      rw [ofPredicate?, ofPredicate?]
      exact (partsOf_respelled hclauses).bind fun _ => .refl _

theorem partsOf_respelled {clauses others : List (Joined Predicate)}
    (hrespelled : ClausesRespelled schema clauses others) :
    ResultKept (partsOf schema config clauses) (partsOf schema config others) := by
  cases hrespelled with
  | nil => exact .refl _
  | cons junction hpredicate hclauses =>
      rw [partsOf, partsOf, partOf?, partOf?]
      refine .bind ((ofPredicate?_respelled hpredicate).bind fun _ => .refl _) fun part => ?_
      exact (partsOf_respelled hclauses).bind fun _ => .refl _

end

theorem ofClauses_respelled {clauses others : List Clause}
    (hrespelled : ClausesRespelled schema clauses others) :
    ResultKept (ofClauses schema config clauses) (ofClauses schema config others) :=
  (partsOf_respelled config hrespelled).bind fun _ => .refl _

end Query

/-! ### Directives -/

namespace Request

variable {schema : Schema} {request other : Request}

theorem sortTokens_respelled {sorts others : List SortKey}
    (hrespelled : List.Forall₂ (SortKey.Respelled schema) sorts others) :
    ResultKept (sortTokens schema sorts) (sortTokens schema others) := by
  cases hrespelled with
  | nil => exact .refl _
  | @cons sort key _ _ hsort hmore =>
      cases hmore with
      | nil =>
          refine hsort.column.resolve.bind fun field => ?_
          rw [hsort.direction]
          exact .refl _
      | cons => exact .of_mended trivial _

theorem projectionTokens_respelled {projection others : Projection}
    (hrespelled : projection.Respelled schema others) :
    projectionTokens schema others = projectionTokens schema projection := by
  cases hrespelled with
  | all => rfl
  | @columns names others hnames =>
      have hbare : names.map schema.bareColumn = others.map schema.bareColumn := by
        rw [← List.forall₂_eq_eq_eq, List.forall₂_map_left_iff, List.forall₂_map_right_iff]
        exact hnames.imp fun _ _ hcolumn => hcolumn.bareColumn.symm
      have htokens := congrArg (List.map Arg.text) hbare
      rw [List.map_map, List.map_map] at htokens
      rw [projectionTokens, projectionTokens, hnames.length_eq]
      exact congrArg (Arg.text "RETURN" :: Arg.count others.length :: ·) htokens.symm

theorem Respelled.contentTokens (hrespelled : request.Respelled schema other) :
    other.contentTokens schema = request.contentTokens schema := by
  rw [Request.contentTokens, Request.contentTokens, hrespelled.noContent,
    projectionTokens_respelled hrespelled.projection]

/-! ### Commands -/

variable (config : Config)

theorem Respelled.selectCommand (hrespelled : request.Respelled schema other) :
    ResultKept (request.selectCommand schema config) (other.selectCommand schema config) := by
  refine (Query.ofClauses_respelled config hrespelled.clauses).bind fun query => ?_
  refine (sortTokens_respelled hrespelled.sorts).bind fun sort => ?_
  rw [hrespelled.contentTokens, hrespelled.offset, hrespelled.limit]
  exact .refl _

theorem Respelled.countCommand (hrespelled : request.Respelled schema other) :
    ResultKept (request.countCommand schema config) (other.countCommand schema config) :=
  (Query.ofClauses_respelled config hrespelled.clauses).bind fun _ => .refl _

theorem Respelled.deletionCommand (hrespelled : request.Respelled schema other) :
    ResultKept (request.deletionCommand schema config) (other.deletionCommand schema config) := by
  have hpage (offset limit : Nat) :
      Respelled schema ((request.skip offset).take limit) ((other.skip offset).take limit) :=
    { hrespelled with offset := rfl, limit := rfl }
  rw [deletionCommand_eq_selectCommand, deletionCommand_eq_selectCommand, hrespelled.offset,
    hrespelled.limit]
  exact (hpage _ _).selectCommand config

end Request

/-- Wherever a column is written, it is the name of its field that is written. -/
structure Schema.WritesName (schema : Schema) (config : Config) (column : String) (field : Field) :
    Prop where
  sort (direction : Direction) : Request.sortTokens schema [{ column, direction }] =
    .ok [.text "SORTBY", .text field.name, .text direction.keyword]
  projection (names : List String) (position : Nat) (hcolumn : names[position]? = some column) :
    (Request.projectionTokens schema (.columns names))[position + 2]? = some (.text field.name)
  tagValues (htag : field.kind = .tag) : schema.tagValuesCommand column =
    .ok (.ofTexts "FT.TAGVALS" [schema.name, field.name])
  clause (junction : Junction) (asked : Test) (written : String)
    (hwritten : Query.clauseText schema config junction column asked = .ok written) :
    ∃ query : Query, query.IsClauseOf field.name ∧ query.text = written

theorem Schema.writesName_of_resolve? {schema : Schema} {column : String} {field : Field}
    (hfield : schema.resolve? column = some field) (config : Config) :
    schema.WritesName config column field where
  sort direction := by
    rw [Request.sortTokens, resolve_eq_ok_iff.mpr hfield]
    rfl
  projection names position hcolumn := by
    rw [Request.projectionTokens, List.getElem?_cons_succ, List.getElem?_cons_succ,
      List.getElem?_map, hcolumn, Option.map_some, name_of_field? hfield]
  tagValues htag := by
    rw [tagValuesCommand, resolve_eq_ok_iff.mpr hfield]
    change (if field.kind != .tag then _ else _) = _
    rw [htag]
    rfl
  clause junction asked written hwritten := by
    rw [Query.clauseText_eq, map_eq_ok_iff] at hwritten
    obtain ⟨query, hquery, htext⟩ := hwritten
    obtain ⟨found, hfound, hclause⟩ := Query.ofTest_isClauseOf hquery
    obtain rfl := Option.some.inj (hfield.symm.trans hfound)
    exact ⟨query, hclause, htext⟩

/-- Spelling is transparent. A request that can be sent as a search has the same commands, be it to
search, to count or to delete, when any of its columns have the name of the index put in front; and
wherever a column is written that names a field, it is the name of the field that is written. -/
theorem spelling_transparent (schema : Schema) (config : Config) :
    (∀ request other : Request, ∀ command, request.Respelled schema other →
      request.selectCommand schema config = .ok command →
        other.selectCommand schema config = .ok command ∧
        ∃ count deletion,
          request.countCommand schema config = .ok count ∧
          other.countCommand schema config = .ok count ∧
          request.deletionCommand schema config = .ok deletion ∧
          other.deletionCommand schema config = .ok deletion) ∧
    ∀ column field, schema.resolve? column = some field →
      schema.WritesName config column field := by
  refine ⟨fun request other command hrespelled hselect => ?_,
    fun column field hfield => Schema.writesName_of_resolve? hfield config⟩
  obtain ⟨count, deletion, hcount, hdeletion⟩ := Request.exists_count_and_deletion hselect
  exact ⟨(hrespelled.selectCommand config).ok command hselect, count, deletion, hcount,
    (hrespelled.countCommand config).ok count hcount, hdeletion,
    (hrespelled.deletionCommand config).ok deletion hdeletion⟩

/-- A bookshop whose name has a point in it, as the name of one of its fields has. -/
def bookshop : Schema :=
  { name := "shop.eu", fields := [.text "title", .numeric "eu.price", .tag "shop"] }

/-- Offers by title or by price, the dearest ones first. -/
def offers : Request :=
  { index := "shop.eu",
    clauses := [{ junction := .and, predicate := .nested [
      { junction := .and, predicate := .test "title" (.compare .eq (.text "Emma")) },
      { junction := .or, predicate := .test "eu.price" (.between (.int 1) (.int 9)) }] }],
    sorts := [{ column := "eu.price", direction := .desc }],
    projection := .columns ["title", "eu.price", "stock"] }

/-- The offers with the price and the stock spelled with the name of the shop. -/
def respelledOffers : Request :=
  { index := "shop.eu",
    clauses := [{ junction := .and, predicate := .nested [
      { junction := .and, predicate := .test "title" (.compare .eq (.text "Emma")) },
      { junction := .or, predicate := .test "shop.eu.eu.price" (.between (.int 1) (.int 9)) }] }],
    sorts := [{ column := "shop.eu.eu.price", direction := .desc }],
    projection := .columns ["title", "shop.eu.eu.price", "shop.eu.stock"] }

/-- Both spellings of the offers have the same search, which has the name of the price in it; and
the tags of a shop are asked for by the name of their field. -/
theorem respelledOffers_sent :
    respelledOffers.selectCommand bookshop {} = .ok
      { name := "FT.SEARCH",
        args := [.text "shop.eu", .text "(@title:\"Emma\" | @eu.price:[1 9])",
          .text "SORTBY", .text "eu.price", .text "DESC",
          .text "RETURN", .count 3, .text "title", .text "eu.price", .text "stock"] } ∧
      bookshop.tagValuesCommand "shop.eu.shop" =
        .ok (.ofTexts "FT.TAGVALS" ["shop.eu", "shop"]) := by
  have hsame (column : String) : bookshop.Respells column column := .inl rfl
  have hprice : bookshop.Respells "eu.price" "shop.eu.eu.price" :=
    .inr ⟨Schema.bareColumn_eq_self_iff.mp rfl, rfl⟩
  have hstock : bookshop.Respells "stock" "shop.eu.stock" :=
    .inr ⟨Schema.bareColumn_eq_self_iff.mp rfl, rfl⟩
  have hrespelled : offers.Respelled bookshop respelledOffers :=
    { clauses := .cons .and
        (.nested (.cons .and (.test (hsame _) _) (.cons .or (.test hprice _) .nil))) .nil
      sorts := .cons ⟨hprice, rfl⟩ .nil
      projection := .columns (.cons (hsame _) (.cons hprice (.cons hstock .nil)))
      index := rfl
      offset := rfl
      limit := rfl
      noContent := rfl }
  obtain ⟨hcommands, hnames⟩ := spelling_transparent bookshop {}
  exact ⟨(hcommands offers respelledOffers _ hrespelled rfl).1,
    (hnames "shop.eu.shop" (.tag "shop") rfl).tagValues rfl⟩

end FullText
