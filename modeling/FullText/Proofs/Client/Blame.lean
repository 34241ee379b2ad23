import FullText.Client.Calls
import FullText.Proofs.Except
import FullText.Proofs.Query.FirstError
import FullText.Proofs.Search.Commands
import FullText.Proofs.Write.Entries

/-!
Who is to blame for an error. Whatever goes wrong while a command is put together is a mistake of
the caller, and nothing that goes wrong with an answer of the store is one.
-/

namespace FullText

/-- An error blames the caller as long as nothing has been sent, and not afterwards. -/
def Error.Due (sent : Bool) (error : Error) : Prop :=
  error.isValidation = !sent

/-- A result that can only be an error when the error is due. -/
abbrev Fair {α : Type} (sent : Bool) (result : Except Error α) : Prop :=
  FailsWith (Error.Due sent) result

/-! ### Queries -/

section Queries

variable {config : Config} {column name : String} {asked : Test} {compiled : Except Error Query}

@[simp]
theorem due_invalidValue (column : String) (issue : ValueIssue) :
    (Error.invalidValue column issue).Due false :=
  rfl

theorem Test.written_fair (column : String) (asked : Test) : Fair false (asked.written column) := by
  unfold Test.written
  repeat' split
  all_goals simp

@[simp]
theorem scalarOperand_fair (column : String) (v : Value) : Fair false (scalarOperand column v) := by
  unfold scalarOperand
  cases v.render? with
  | none => simp
  | some text => simp

@[simp]
theorem numericOperand_fair (column : String) (v : Value) :
    Fair false (numericOperand column v) := by
  unfold numericOperand
  repeat' split
  all_goals simp

theorem operands_fair {α : Type} {read : Value → Except Error α}
    (hread : ∀ v, Fair false (read v)) (column : String) (values : List Value) :
    Fair false (operands read column values) := by
  unfold operands
  split
  case isTrue => simp
  case isFalse => exact FailsWith.mapM fun v _ => hread v

namespace Query

theorem ofTextTest?_fair (h : ofTextTest? config column name asked = some compiled) :
    Fair false compiled := by
  have hscalars := operands_fair (scalarOperand_fair column) column
  unfold ofTextTest? at h
  split at h
  all_goals cases h
  case h_3 =>
    refine (scalarOperand_fair column _).bind fun text _ => ?_
    dsimp only
    split
    all_goals simp
  all_goals simp [hscalars]

theorem between_fair (column name : String) (low high : Value) :
    Fair false (between column name low high) := by
  simp [between]

theorem ofNumericTest?_fair (h : ofNumericTest? column name asked = some compiled) :
    Fair false compiled := by
  have hnumbers := operands_fair (numericOperand_fair column) column
  unfold ofNumericTest? at h
  split at h
  all_goals cases h
  all_goals simp [hnumbers, between_fair]

theorem ofTagTest?_fair (h : ofTagTest? config column name asked = some compiled) :
    Fair false compiled := by
  have hscalars := operands_fair (scalarOperand_fair column) column
  unfold ofTagTest? at h
  split at h
  all_goals cases h
  all_goals simp [hscalars]

theorem ofGeoTest?_fair (h : ofGeoTest? column name asked = some compiled) :
    Fair false compiled := by
  unfold ofGeoTest? at h
  split at h
  case h_1 =>
    cases h
    repeat' split
    all_goals simp
  case h_2 => cases h

theorem ofFieldTest?_fair {field : Field}
    (h : ofFieldTest? config column field asked = some compiled) : Fair false compiled := by
  unfold ofFieldTest? at h
  split at h
  case h_1 => exact ofTextTest?_fair h
  case h_2 => exact ofNumericTest?_fair h
  case h_3 => exact ofTagTest?_fair h
  case h_4 => exact ofGeoTest?_fair h
  case h_5 | h_6 => cases h

end Query

variable {schema : Schema}

@[simp]
theorem Schema.resolve_fair (column : String) : Fair false (schema.resolve column) := by
  unfold Schema.resolve
  cases schema.resolve? column with
  | none => exact failsWith_error_iff.mpr rfl
  | some field => simp

theorem Query.ofTest_fair (column : String) (asked : Test) :
    Fair false (Query.ofTest schema config column asked) := by
  refine (Schema.resolve_fair column).bind fun field _ => ?_
  refine (asked.written_fair column).bind fun written _ => ?_
  split
  case h_1 compiled hcompiled => exact ofFieldTest?_fair hcompiled
  case h_2 => exact failsWith_error_iff.mpr rfl

@[simp]
theorem Query.ofClauses_fair (clauses : List Clause) :
    Fair false (Query.ofClauses schema config clauses) := by
  intro e herror
  obtain ⟨column, asked, htest⟩ := Query.exists_failing_test herror
  exact Query.ofTest_fair column asked e htest

end Queries

/-! ### Commands -/

section Commands

variable {schema : Schema} {config : Config}

theorem Schema.createCommand_fair (schema : Schema) : Fair false schema.createCommand := by
  unfold Schema.createCommand Schema.creationTokens
  split
  case isTrue => exact failsWith_map_iff.mpr (failsWith_error_iff.mpr rfl)
  case isFalse => simp

theorem Schema.tagValuesCommand_fair (schema : Schema) (column : String) :
    Fair false (schema.tagValuesCommand column) := by
  refine (Schema.resolve_fair column).bind fun field _ => ?_
  dsimp only
  split
  case isTrue => exact failsWith_error_iff.mpr rfl
  case isFalse => exact failsWith_pure _

namespace Request

theorem sortTokens_fair (schema : Schema) (sorts : List SortKey) :
    Fair false (sortTokens schema sorts) := by
  unfold sortTokens
  split
  case h_1 => exact failsWith_ok []
  case h_2 => exact (Schema.resolve_fair _).bind fun field _ => failsWith_pure _
  case h_3 => exact failsWith_error_iff.mpr rfl

theorem selectCommand_fair (request : Request) :
    Fair false (request.selectCommand schema config) := by
  refine (Query.ofClauses_fair request.clauses).bind fun query _ => ?_
  exact (sortTokens_fair schema request.sorts).bind fun sort _ => failsWith_pure _

theorem countCommand_fair (request : Request) :
    Fair false (request.countCommand schema config) :=
  (Query.ofClauses_fair request.clauses).bind fun _ _ => failsWith_pure _

theorem deletionCommand_fair (request : Request) :
    Fair false (request.deletionCommand schema config) := by
  rw [deletionCommand_eq_selectCommand]
  exact selectCommand_fair _

end Request

namespace Write

theorem store_fair (config : Config) (position : Nat) (row : Row) :
    Fair false (store config position row) := by
  unfold store
  split
  case h_1 => exact failsWith_ok _
  case h_2 => exact failsWith_error_iff.mpr rfl

theorem insert_fair (config : Config) (rows : List Row) : Fair false (insert config rows) :=
  FailsWith.mapM fun (row, position) _ => store_fair config position row

theorem entries_fair (schema : Schema) (operation : BulkOperation) (options : BulkOptions)
    {missing : Nat → Error} (hmissing : ∀ position, (missing position).Due false)
    (rows : List Row) (scripts : List Script) :
    Fair false (entries schema operation options missing rows scripts) := by
  refine FailsWith.mapM fun (row, position) _ => ?_
  dsimp only
  split
  case h_1 => exact failsWith_ok _
  case h_2 => exact failsWith_error_iff.mpr (hmissing position)

theorem upsert_fair (schema : Schema) (rows : List Row) (scripts : Option (List Script)) :
    Fair false (upsert schema rows scripts) := by
  have hmissing : ∀ position, (Error.missingUpsertIdentifier position).Due false := fun _ => rfl
  have hentries := entries_fair schema .update { docAsUpsert := true, scriptedUpsert := true }
    hmissing rows (scripts.getD [])
  rw [upsert_eq_entries]
  split
  case h_1 =>
    dsimp only
    split
    case isTrue => exact failsWith_error_iff.mpr rfl
    case isFalse => exact hentries
  case h_2 => exact hentries

theorem ofName_fair (name : String) : Fair false (BulkOperation.ofName name) := by
  unfold BulkOperation.ofName
  split
  case h_1 => exact failsWith_ok _
  case h_2 => exact failsWith_error_iff.mpr rfl

theorem scriptIssue?_due {operation : BulkOperation} {scripts : List Script} {rows : Nat}
    {issue : Error} (hissue : scriptIssue? operation scripts rows = some issue) :
    issue.Due false := by
  unfold scriptIssue? at hissue
  repeat' split at hissue
  all_goals cases hissue
  all_goals rfl

theorem bulk_fair (schema : Schema) (operation : String) (rows : List Row)
    (scripts : List Script) (options : BulkOptions) :
    Fair false (bulk schema operation rows scripts options) := by
  have hmissing : ∀ position, (Error.missingDocumentId position).Due false := fun _ => rfl
  rw [bulk_eq_entries]
  refine (ofName_fair operation).bind fun operation _ => ?_
  cases hissue : scriptIssue? operation scripts rows.length with
  | some issue => exact failsWith_error_iff.mpr (scriptIssue?_due hissue)
  | none => exact entries_fair schema operation options hmissing rows scripts

end Write

end Commands

/-! ### Answers -/

section Answers

@[simp]
theorem due_unexpected (expected : Expectation) (got : Reply) : (unexpected expected got).Due true :=
  rfl

theorem classify_fair (outcome : Outcome) (context : List String) :
    Fair true (classify outcome context) := by
  unfold classify
  split
  case h_1 => exact failsWith_error_iff.mpr rfl
  case h_2 =>
    split
    case h_1 => exact failsWith_error_iff.mpr rfl
    case h_2 => exact failsWith_ok _

theorem classifyBatch_fair (replies : List Reply) (commands : List Command) :
    Fair true (classifyBatch replies commands) := by
  unfold classifyBatch
  split
  case h_1 => exact failsWith_error_iff.mpr rfl
  case h_2 =>
    split
    case h_1 => exact failsWith_ok replies
    case h_2 => exact failsWith_error_iff.mpr rfl

theorem resultOf_fair {classified : Except Error Outcome} (hfair : Fair true classified) :
    Fair true (resultOf classified) := by
  unfold resultOf
  split
  case h_1 | h_2 => exact failsWith_ok _
  case h_3 => exact failsWith_error_iff.mpr rfl
  case h_4 => exact failsWith_error_iff.mpr (hfair _ rfl)

namespace Document

theorem fieldsOf_fair (nullSentinel : String) (pairs : List Reply) :
    Fair true (fieldsOf nullSentinel pairs) := by
  fun_induction fieldsOf nullSentinel pairs with
  | case1 _ _ _ _ _ ih => exact ih.bind fun _ _ => failsWith_pure _
  | case2 => exact failsWith_throw_iff.mpr rfl
  | case3 => exact failsWith_ok []

theorem ofPairs_fair (key : String) (pairs : List Reply) (nullSentinel : String) :
    Fair true (ofPairs key pairs nullSentinel) := by
  unfold ofPairs
  dsimp only
  split
  case isTrue => exact failsWith_error_iff.mpr rfl
  case isFalse => exact (fieldsOf_fair nullSentinel pairs).bind fun _ _ => failsWith_pure _

end Document

namespace SearchResults

theorem totalOf_fair (reply : Reply) : Fair true (totalOf reply) := by
  unfold totalOf
  split
  case h_1 => exact failsWith_ok _
  case h_2 => exact failsWith_error_iff.mpr rfl

theorem documentsOf_fair (nullSentinel : String) (items : List Reply) :
    Fair true (documentsOf nullSentinel items) := by
  fun_induction documentsOf nullSentinel items with
  | case1 => exact failsWith_ok []
  | case2 _ pairs _ key _ ih =>
      refine (Document.ofPairs_fair key pairs nullSentinel).bind fun document _ => ?_
      exact ih.bind fun _ _ => failsWith_pure _
  | case4 _ _ _ _ _ ih => exact ih.bind fun _ _ => failsWith_pure _
  | case3 | case5 => exact failsWith_throw_iff.mpr rfl

theorem ofReply_fair (reply : Reply) (nullSentinel : String) :
    Fair true (ofReply reply nullSentinel) := by
  unfold ofReply
  split
  case h_1 => exact failsWith_error_iff.mpr rfl
  case h_2 first rest =>
    refine (totalOf_fair first).bind fun total _ => ?_
    exact (documentsOf_fair nullSentinel rest).bind fun _ _ => failsWith_pure _
  case h_3 => exact failsWith_error_iff.mpr rfl

theorem countOfReply_fair (reply : Reply) : Fair true (countOfReply reply) := by
  unfold countOfReply
  split
  case h_1 => exact failsWith_error_iff.mpr rfl
  case h_2 | h_3 => exact totalOf_fair _

end SearchResults

namespace Client

theorem expectSuccess_fair (command : String) (reply : Reply) :
    Fair true (expectSuccess command reply) := by
  unfold expectSuccess
  split
  case h_1 => exact failsWith_error_iff.mpr rfl
  case h_2 => exact failsWith_ok ()

theorem documentOf_fair (client : Client) (key : String) (reply : Reply) :
    Fair true (client.documentOf key reply) := by
  unfold documentOf
  split
  case h_1 | h_3 => exact failsWith_ok none
  case h_2 => exact failsWith_map_iff.mpr (Document.ofPairs_fair key _ _)
  case h_4 => exact failsWith_error_iff.mpr rfl

end Client

end Answers

end FullText
