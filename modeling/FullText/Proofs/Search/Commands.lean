import FullText.Proofs.Except
import FullText.Search

/-!
The commands of a request. A deletion begins with a selection of the page that it is about, and a
request for which there is a selection can be counted and deleted as well.
-/

namespace FullText.Request

variable {request : Request} {schema : Schema} {config : Config} {search : Command}

/-- The search of a deletion is the selection of a page, from the first document on and as long as
the settings allow, as far as the request does not say otherwise. -/
theorem deletionCommand_eq_selectCommand (request : Request) (schema : Schema) (config : Config) :
    request.deletionCommand schema config =
      ((request.skip (request.offset.getD 0)).take
        (request.limit.getD config.maxResults)).selectCommand schema config :=
  rfl

theorem selectCommand_eq_ok_iff :
    request.selectCommand schema config = .ok search ↔
      ∃ query sort, Query.ofClauses schema config request.clauses = .ok query ∧
        sortTokens schema request.sorts = .ok sort ∧
        search = searchCommand schema query
          (sort ++ pageTokens config request.offset request.limit ++
            contentTokens schema request) := by
  rw [selectCommand, bind_eq_ok_iff]
  constructor
  · rintro ⟨query, hquery, hsearch⟩
    obtain ⟨sort, hsort, rfl⟩ := bind_pure_eq_ok_iff.mp hsearch
    exact ⟨query, sort, hquery, hsort, rfl⟩
  · rintro ⟨query, sort, hquery, hsort, rfl⟩
    exact ⟨query, hquery, bind_pure_eq_ok_iff.mpr ⟨sort, hsort, rfl⟩⟩

theorem exists_args_of_selectCommand (hcommand : request.selectCommand schema config = .ok search) :
    ∃ args, search = { name := "FT.SEARCH", args } := by
  obtain ⟨query, sort, -, -, rfl⟩ := selectCommand_eq_ok_iff.mp hcommand
  exact ⟨_, rfl⟩

theorem exists_args_of_deletionCommand
    (hcommand : request.deletionCommand schema config = .ok search) :
    ∃ args, search = { name := "FT.SEARCH", args } := by
  rw [deletionCommand_eq_selectCommand] at hcommand
  exact exists_args_of_selectCommand hcommand

theorem exists_count_and_deletion (hcommand : request.selectCommand schema config = .ok search) :
    ∃ count deletion, request.countCommand schema config = .ok count ∧
      request.deletionCommand schema config = .ok deletion := by
  obtain ⟨query, sort, hquery, hsort, -⟩ := selectCommand_eq_ok_iff.mp hcommand
  have hdeletion : ∃ deletion, request.deletionCommand schema config = .ok deletion := by
    rw [deletionCommand_eq_selectCommand]
    exact ⟨_, selectCommand_eq_ok_iff.mpr ⟨query, sort, hquery, hsort, rfl⟩⟩
  obtain ⟨deletion, hdeletion⟩ := hdeletion
  exact ⟨_, deletion, bind_pure_eq_ok_iff.mpr ⟨query, hquery, rfl⟩, hdeletion⟩

end FullText.Request
