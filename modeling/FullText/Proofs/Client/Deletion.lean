import FullText.Proofs.Client.Course
import FullText.Proofs.Search.Commands
import FullText.Transport.Playback

/-!
Deletions by query. A deletion asks for one page of the documents that match and deletes the ones on
it, in one command. It does not compare them with the total: matching documents that are not on the
page stay where they are.
-/

namespace FullText

/-- The keys that are named in the deletions among round trips. -/
def keysDeleted (trips : List RoundTrip) : List String :=
  (trips.flatMap RoundTrip.commands).flatMap fun command =>
    if command.name = "DEL" then command.argTexts else []

theorem keysDeleted_search (args : List Arg) (result : Except Error Reply)
    (later : List RoundTrip) :
    keysDeleted (.single { name := "FT.SEARCH", args } result :: later) = keysDeleted later := by
  simp [keysDeleted, RoundTrip.commands]

theorem keysDeleted_deleteCommand (keys : List String) (answer : Except Error Reply) :
    keysDeleted [.single (Write.deleteCommand keys) answer] = keys := by
  change (Write.deleteCommand keys).argTexts ++ [] = keys
  rw [List.append_nil]
  exact Command.argTexts_ofTexts "DEL" keys

namespace Client

variable {σ : Type} [Transport σ] {client : Client} {schema : Schema} {request : Request}

/-- The ways in which a deletion by query goes: the round trips it makes, and what it comes to. -/
inductive Deletes (client : Client) (schema : Schema) (request : Request) :
    List RoundTrip → Except Error Nat → Prop where
  | refused {error : Error}
      (hcommand : request.deletionCommand schema client.config = .error error) :
      client.Deletes schema request [] (.error error)
  | unanswered {search : Command} (error : Error)
      (hcommand : request.deletionCommand schema client.config = .ok search) :
      client.Deletes schema request [.single search (.error error)] (.error error)
  | unread {search : Command} {found : Reply} {error : Error}
      (hcommand : request.deletionCommand schema client.config = .ok search)
      (hread : SearchResults.ofReply found client.config.nullSentinel = .error error) :
      client.Deletes schema request [.single search (.ok found)] (.error error)
  | nothing {search : Command} {found : Reply} {results : SearchResults}
      (hcommand : request.deletionCommand schema client.config = .ok search)
      (hread : SearchResults.ofReply found client.config.nullSentinel = .ok results)
      (hnone : results.documents = []) :
      client.Deletes schema request [.single search (.ok found)] (.ok 0)
  | page {search : Command} {found : Reply} {results : SearchResults}
      (hcommand : request.deletionCommand schema client.config = .ok search)
      (hread : SearchResults.ofReply found client.config.nullSentinel = .ok results)
      (hsome : results.documents ≠ []) (answer : Except Error Reply) :
      client.Deletes schema request
        [.single search (.ok found), .single (Write.deleteCommand results.keys) answer]
        (answer.map fun deleted => (deleted.toInt?.getD 0).toNat)

theorem deletes_of_page {search : Command} {found : Reply} {results : SearchResults}
    {session after : Session σ} {result : Except Error Nat}
    (hcommand : request.deletionCommand schema client.config = .ok search)
    (hread : SearchResults.ofReply found client.config.nullSentinel = .ok results)
    (hrun : client.run (deletePage results) session = some (result, after)) :
    client.Deletes schema request
      (.single search (.ok found) :: client.roundTrips (deletePage results) session) result := by
  unfold deletePage at hrun ⊢
  split at hrun
  case isTrue hempty =>
    cases hrun
    rw [if_pos hempty]
    exact .nothing hcommand hread (List.isEmpty_iff.mp hempty)
  case isFalse hne =>
    have hsome : results.documents ≠ [] := mt List.isEmpty_iff.mpr hne
    rw [if_neg hne]
    cases client.begins (Write.deleteCommand results.keys) _ session with
    | unanswered hnone =>
        rw [hnone] at hrun
        cases hrun
    | failed hfailed htrips =>
        rw [hfailed] at hrun
        cases hrun
        rw [htrips]
        exact .page hcommand hread hsome (.error _)
    | replied hlater htrips =>
        rw [hlater] at hrun
        cases hrun
        rw [htrips]
        exact .page hcommand hread hsome (.ok _)

/-- What a deletion by query does is one of these. -/
theorem deletes_of_run {session after : Session σ} {result : Except Error Nat}
    (hrun : client.run (client.deleteByQuery schema request) session = some (result, after)) :
    client.Deletes schema request
      (client.roundTrips (client.deleteByQuery schema request) session) result := by
  unfold deleteByQuery at hrun ⊢
  cases hcommand : request.deletionCommand schema client.config with
  | error error =>
      rw [hcommand] at hrun
      cases hrun
      exact .refused hcommand
  | ok search =>
      rw [hcommand] at hrun
      cases client.begins search _ session with
      | unanswered hnone => cases hnone.symm.trans hrun
      | failed hfailed htrips =>
          cases hfailed.symm.trans hrun
          exact htrips ▸ .unanswered _ hcommand
      | @replied found between hlater htrips =>
          replace hlater := hlater.symm.trans hrun
          refine htrips ▸ ?_
          cases hread : SearchResults.ofReply found client.config.nullSentinel with
          | error error =>
              rw [hread] at hlater
              cases hlater
              exact .unread hcommand hread
          | ok results =>
              rw [hread] at hlater
              exact deletes_of_page hcommand hread hlater

/-- A deletion by query that succeeds has read one reply and deleted the documents in it. -/
theorem Deletes.of_ok {trips : List RoundTrip} {deleted : Nat}
    (hdeletes : client.Deletes schema request trips (.ok deleted)) :
    ∃ search found later results, trips = .single search (.ok found) :: later ∧
      request.deletionCommand schema client.config = .ok search ∧
      SearchResults.ofReply found client.config.nullSentinel = .ok results ∧
      keysDeleted trips = results.keys := by
  generalize hresult : Except.ok deleted = result at hdeletes
  cases hdeletes with
  | refused | unanswered | unread => cases hresult
  | nothing hcommand hread hnone =>
      refine ⟨_, _, _, _, rfl, hcommand, hread, ?_⟩
      obtain ⟨args, rfl⟩ := Request.exists_args_of_deletionCommand hcommand
      rw [keysDeleted_search, SearchResults.keys, hnone]
      rfl
  | page hcommand hread hsome answer =>
      refine ⟨_, _, _, _, rfl, hcommand, hread, ?_⟩
      obtain ⟨args, rfl⟩ := Request.exists_args_of_deletionCommand hcommand
      rw [keysDeleted_search, keysDeleted_deleteCommand]

end Client

/-- A deletion by query without a page of its own reads the first page that the settings allow and
deletes the documents on it, and no others. It is complete exactly if the reply brings as many
documents as it counts; from a store that fills the page, exactly if all of them fit on it. -/
theorem deletion_complete_iff {σ : Type} [Transport σ] (client : Client) (schema : Schema)
    (request : Request) (session : Session σ) {deleted : Nat} {after : Session σ}
    (hoffset : request.offset = none) (hlimit : request.limit = none)
    (hrun : client.run (client.deleteByQuery schema request) session = some (.ok deleted, after)) :
    let trips := client.roundTrips (client.deleteByQuery schema request) session
    ∃ search found later results, trips = .single search (.ok found) :: later ∧
      ((request.skip 0).take client.config.maxResults).selectCommand schema client.config =
        .ok search ∧
      SearchResults.ofReply found client.config.nullSentinel = .ok results ∧
      keysDeleted trips = results.keys ∧
      ((keysDeleted trips).length = results.total ↔ results.documents.length = results.total) ∧
      (results.documents.length = min results.total client.config.maxResults →
        ((keysDeleted trips).length = results.total ↔
          results.total ≤ client.config.maxResults)) := by
  intro trips
  obtain ⟨search, found, later, results, htrips, hcommand, hread, hkeys⟩ :=
    (Client.deletes_of_run hrun).of_ok
  rw [Request.deletionCommand_eq_selectCommand, hoffset, hlimit] at hcommand
  have hlength : (keysDeleted trips).length = results.documents.length := by
    rw [hkeys, SearchResults.keys, List.length_map]
  refine ⟨search, found, later, results, htrips, hcommand, hread, hkeys, ?_, ?_⟩
  · rw [hlength]
  · intro hpage
    rw [hlength, hpage]
    omega

/-- The deletion of all books. -/
def allBooks : Request :=
  { index := "books", noContent := true }

/-- A store that finds two books and brings both. -/
def fullPage : Session Playback where
  transport := { outcomes :=
    [.reply (.array [.int 2, .bulk "books::1", .bulk "books::2"]), .reply (.int 2)] }

/-- Two books fit on a page of two. -/
theorem fullPage_deleted :
    let client : Client := { config := { maxResults := 2 } }
    (allBooks.offset = none ∧ allBooks.limit = none) ∧
    (∃ after, client.run (client.deleteByQuery books allBooks) fullPage = some (.ok 2, after)) ∧
    (keysDeleted
      (client.roundTrips (client.deleteByQuery books allBooks) fullPage)).length = 2 := by
  intro client
  have hrun : ∃ after, client.run (client.deleteByQuery books allBooks) fullPage =
      some (.ok 2, after) := ⟨_, rfl⟩
  refine ⟨⟨rfl, rfl⟩, hrun, ?_⟩
  obtain ⟨after, hrun⟩ := hrun
  obtain ⟨search, found, later, results, htrips, -, hread, -, -, hcomplete⟩ :=
    deletion_complete_iff client books allBooks fullPage rfl rfl hrun
  obtain ⟨⟨-, ⟨⟩⟩, -⟩ := List.cons.inj htrips
  cases hread
  exact (hcomplete rfl).mpr (Nat.le_refl 2)

/-- A store that finds two books, of which it brings one, and then finds the other one. -/
def shortPages : Session Playback where
  transport := { outcomes := [.reply (.array [.int 2, .bulk "books::1"]), .reply (.int 1),
    .reply (.array [.int 1, .bulk "books::2"]), .reply (.int 1)] }

/-- Of two books that do not fit on a page the second one is left, and the deletion is a success. -/
theorem shortPages_left :
    let client : Client := { config := { maxResults := 1 } }
    (allBooks.offset = none ∧ allBooks.limit = none) ∧
    ∃ after search found later results,
      client.run (client.deleteByQuery books allBooks) shortPages = some (.ok 1, after) ∧
      client.roundTrips (client.deleteByQuery books allBooks) shortPages =
        .single search (.ok found) :: later ∧
      SearchResults.ofReply found client.config.nullSentinel = .ok results ∧
      (keysDeleted (client.roundTrips (client.deleteByQuery books allBooks) shortPages)).length ≠
        results.total :=
  ⟨⟨rfl, rfl⟩, _, _, _, _, { total := 2, documents := [⟨"books::1", []⟩] }, rfl, rfl, rfl,
    by decide⟩

end FullText
