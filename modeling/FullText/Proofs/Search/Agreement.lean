import FullText.Proofs.Search.Commands

/-!
The three searches of a request: for its documents, for their number, and for what is to be deleted.
Each is put together on its own, and yet all three go by one query to one index. A deletion asks for
a page in every case, and a count asks for no document at all, whatever else the request says.
-/

namespace FullText

/-- A search of an index by a query, with its directives: the order, the page and the content. -/
structure Command.Searches (command : Command) (schema : Schema) (query : Query)
    (sort page content : List Arg) : Prop where
  name_eq : command.name = "FT.SEARCH"
  args_eq : command.args = .text schema.name :: .text query.text :: (sort ++ page ++ content)

/-- The index and the query that a search goes by. -/
def Command.target (command : Command) : List Arg :=
  command.args.take 2

theorem Command.Searches.target_eq {command : Command} {schema : Schema} {query : Query}
    {sort page content : List Arg} (hsearches : command.Searches schema query sort page content) :
    command.target = [.text schema.name, .text query.text] := by
  rw [target, hsearches.args_eq]
  rfl

namespace Request

variable {request : Request} {schema : Schema} {config : Config} {command : Command}

/-- The search for the number of documents, without any document. -/
def CountsBy (schema : Schema) (query : Query) (command : Command) : Prop :=
  command.Searches schema query [] [.text "LIMIT", .int 0, .int 0] [.text "NOCONTENT"]

theorem deletionCommand_eq_skip (request : Request) (schema : Schema) (config : Config) :
    request.deletionCommand schema config =
      (request.skip (request.offset.getD 0)).selectCommand schema config :=
  rfl

theorem selectCommand_searches (hselect : request.selectCommand schema config = .ok command) :
    ∃ query sort, Query.ofClauses schema config request.clauses = .ok query ∧
      sortTokens schema request.sorts = .ok sort ∧
      command.Searches schema query sort (pageTokens config request.offset request.limit)
        (request.contentTokens schema) := by
  obtain ⟨query, sort, hquery, hsort, rfl⟩ := selectCommand_eq_ok_iff.mp hselect
  exact ⟨query, sort, hquery, hsort, rfl, rfl⟩

/-- A deletion has a page, whether the request says so or not. -/
theorem deletionCommand_searches
    (hdeletion : request.deletionCommand schema config = .ok command) :
    ∃ query sort, Query.ofClauses schema config request.clauses = .ok query ∧
      sortTokens schema request.sorts = .ok sort ∧
      command.Searches schema query sort
        [.text "LIMIT", .count (request.offset.getD 0), .count (request.limit.getD config.maxResults)]
        (request.contentTokens schema) := by
  rw [deletionCommand_eq_skip] at hdeletion
  exact selectCommand_searches hdeletion

theorem countCommand_eq_ok_iff :
    request.countCommand schema config = .ok command ↔
      ∃ query, Query.ofClauses schema config request.clauses = .ok query ∧
        CountsBy schema query command := by
  rw [countCommand, bind_pure_eq_ok_iff]
  refine exists_congr fun query => and_congr_right fun _ => ?_
  constructor
  · rintro rfl
    exact ⟨rfl, rfl⟩
  · rintro ⟨hname, hargs⟩
    obtain ⟨name, args⟩ := command
    obtain rfl : name = "FT.SEARCH" := hname
    obtain rfl : args = _ := hargs
    rfl

theorem countCommand_eq_error_iff {error : Error} :
    request.countCommand schema config = .error error ↔
      Query.ofClauses schema config request.clauses = .error error := by
  rw [countCommand, bind_eq_error_iff]
  refine or_iff_left ?_
  rintro ⟨query, -, hnever⟩
  cases hnever

/-- Nothing but the clauses of a request bears on its count. -/
theorem countCommand_congr {other : Request} (hclauses : other.clauses = request.clauses) :
    other.countCommand schema config = request.countCommand schema config := by
  rw [countCommand, countCommand, hclauses]

end Request

/-- A deletion is the selection from the offset of the request on, or from the first document on, with
the same errors, and always has a page. A count depends on the clauses of the request alone: it exists
exactly if they compile, fails as they do, and asks for none of the documents. Whenever there is a
selection there are the other two, and all three search the same index by the same query. -/
theorem searches_agree (schema : Schema) (config : Config) (request : Request) :
    (request.deletionCommand schema config =
        (request.skip (request.offset.getD 0)).selectCommand schema config ∧
      ∀ deletion, request.deletionCommand schema config = .ok deletion → ∃ query sort,
        deletion.Searches schema query sort [.text "LIMIT", .count (request.offset.getD 0),
          .count (request.limit.getD config.maxResults)] (request.contentTokens schema)) ∧
    ((∀ command, request.countCommand schema config = .ok command ↔
        ∃ query, Query.ofClauses schema config request.clauses = .ok query ∧
          Request.CountsBy schema query command) ∧
      (∀ error, request.countCommand schema config = .error error ↔
        Query.ofClauses schema config request.clauses = .error error) ∧
      ∀ other : Request, other.clauses = request.clauses →
        other.countCommand schema config = request.countCommand schema config) ∧
    ∀ search, request.selectCommand schema config = .ok search → ∃ query count deletion,
      Query.ofClauses schema config request.clauses = .ok query ∧
      request.countCommand schema config = .ok count ∧
      request.deletionCommand schema config = .ok deletion ∧
      ∀ command ∈ [search, count, deletion],
        command.target = [.text schema.name, .text query.text] := by
  refine ⟨⟨request.deletionCommand_eq_skip schema config, ?_⟩,
    ⟨fun _ => Request.countCommand_eq_ok_iff, fun _ => Request.countCommand_eq_error_iff,
      fun _ => Request.countCommand_congr⟩, ?_⟩
  · intro deletion hdeletion
    obtain ⟨query, sort, -, -, hsearches⟩ := Request.deletionCommand_searches hdeletion
    exact ⟨query, sort, hsearches⟩
  · intro search hselect
    obtain ⟨query, sort, hquery, -, hsearches⟩ := Request.selectCommand_searches hselect
    obtain ⟨count, deletion, hcount, hdeletion⟩ := Request.exists_count_and_deletion hselect
    refine ⟨query, count, deletion, hquery, hcount, hdeletion, ?_⟩
    -- Both of the others have compiled the same clauses, so their query is this one.
    obtain ⟨counted, hcounted, hcounts⟩ := Request.countCommand_eq_ok_iff.mp hcount
    obtain ⟨deleted, _, hdeleted, -, hdeletes⟩ := Request.deletionCommand_searches hdeletion
    obtain rfl : counted = query := Except.ok.inj (hcounted.symm.trans hquery)
    obtain rfl : deleted = counted := Except.ok.inj (hdeleted.symm.trans hquery)
    simp [hsearches.target_eq, hcounts.target_eq, hdeletes.target_eq]

/-- An index of plants. -/
def plants : Schema :=
  { name := "plants", fields := [.text "name", .numeric "height" true, .tag "colour"] }

/-- The names of five red plants, the tallest first. -/
def tallestRed : Request where
  index := "plants"
  clauses := [
    { junction := .and, predicate := .test "plants.colour" (.compare .eq (.text "red")) }]
  sorts := [{ column := "height", direction := .desc }]
  limit := some 5
  projection := .columns ["name"]

/-- There can be no two orders, which only the count does not mind. -/
theorem tallestRed_searches_agree :
    (∃ search count deletion, tallestRed.selectCommand plants {} = .ok search ∧
      tallestRed.countCommand plants {} = .ok count ∧
      tallestRed.deletionCommand plants {} = .ok deletion ∧
      count.target = search.target ∧ deletion.target = search.target ∧
      ∃ query sort, deletion.Searches plants query sort
        [.text "LIMIT", .int 0, .int 5] [.text "RETURN", .int 1, .text "name"]) ∧
    (tallestRed.orderBy "name" .asc).deletionCommand plants {} = .error (.multipleSorts 2) ∧
    (tallestRed.orderBy "name" .asc).countCommand plants {} = tallestRed.countCommand plants {} := by
  obtain ⟨⟨-, hpaged⟩, ⟨-, -, halike⟩, hagree⟩ := searches_agree plants {} tallestRed
  have hselect : ∃ search, tallestRed.selectCommand plants {} = .ok search := ⟨_, rfl⟩
  obtain ⟨search, hselect⟩ := hselect
  obtain ⟨query, count, deletion, -, hcount, hdeletion, htargets⟩ := hagree search hselect
  refine ⟨⟨search, count, deletion, hselect, hcount, hdeletion, ?_, ?_, hpaged _ hdeletion⟩, rfl,
    halike _ rfl⟩
  · rw [htargets count (by simp), htargets search (by simp)]
  · rw [htargets deletion (by simp), htargets search (by simp)]

end FullText
