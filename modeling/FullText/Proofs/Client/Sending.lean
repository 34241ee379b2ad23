import FullText.Proofs.Client.Blame
import FullText.Proofs.Store.Conversation

/-!
Calls that fail, and what has been sent by then. A call is a conversation with the store; it fails
by a mistake of the caller exactly if the conversation has not begun.
-/

namespace FullText

/-! ### Round trips -/

namespace Client

/-- A command is sent at least once, and what comes back never blames the caller. -/
theorem execute_converse {client : Client} {command : Command} {session after : Session Store}
    {answer : Except Error Reply}
    (hexecute : client.execute command session = some (answer, after)) :
    Fair true answer ∧ ∃ received, received ≠ [] ∧
      after.transport = (Store.converse received session.transport).2 := by
  obtain ⟨attempts, hattempts, hresult⟩ := Option.map_eq_some_iff.mp hexecute
  obtain ⟨rfl, rfl⟩ := Prod.mk.inj hresult
  obtain ⟨repeats, hstate⟩ := Store.attempt_converse hattempts
  exact ⟨resultOf_fair (classify_fair _ _), _, List.cons_ne_nil _ _, hstate⟩

/-- A batch is sent unless it is empty, and what comes back never blames the caller. -/
theorem pipeline_converse (commands : List Command) (session : Session Store) :
    Fair true (pipeline commands session).1 ∧
      (commands = [] → (pipeline commands session).1 = .ok []) ∧
      ∃ received, (received = [] ↔ commands = []) ∧
        (pipeline commands session).2.transport =
          (Store.converse received session.transport).2 := by
  cases commands with
  | nil => exact ⟨failsWith_ok [], fun _ => rfl, [], Iff.rfl, rfl⟩
  | cons command commands =>
      obtain ⟨received, -, hempty, hstate⟩ :=
        Store.oneByOne_converse (command :: commands) session.transport
      refine ⟨?_, fun hnil => absurd hnil (List.cons_ne_nil _ _), received, hempty, hstate⟩
      simp only [pipeline, List.isEmpty_cons, Bool.false_eq_true, if_false]
      split
      case h_1 => exact classifyBatch_fair _ _
      case h_2 => exact failsWith_map_iff.mpr (classify_fair _ _)

end Client

/-! ### Dialogues -/

namespace Dialogue

variable {α β : Type}

/-- A dialogue that blames the caller only as long as nothing has been sent, and fails for no other
reason then; `sent` tells whether something has been sent before. A batch without commands is
answered without being sent. -/
def BlamesFairly : Dialogue α → (sent : Bool) → Prop
  | .done result, sent => Fair sent result
  | .send _ next, _ => ∀ answer, Fair true answer → (next answer).BlamesFairly true
  | .sendBatch commands next, sent => ∀ answers, Fair true answers →
      (commands = [] → answers = .ok []) →
      (next answers).BlamesFairly (sent || !commands.isEmpty)
  | .measure _ next, sent => next.BlamesFairly sent

private theorem sent_append (sent : Bool) (first second : List Command) :
    (sent || !(first ++ second).isEmpty) = ((sent || !first.isEmpty) || !second.isEmpty) := by
  cases first with
  | nil => simp
  | cons command first => simp

/-- Carrying a dialogue out is a conversation with the store, and its result is fair. -/
theorem BlamesFairly.run {client : Client} {dialogue : Dialogue α} {sent : Bool}
    (hfair : dialogue.BlamesFairly sent) {session after : Session Store} {result : Except Error α}
    (hrun : client.run dialogue session = some (result, after)) :
    ∃ received, after.transport = (Store.converse received session.transport).2 ∧
      Fair (sent || !received.isEmpty) result := by
  induction dialogue generalizing sent session with
  | done result =>
      cases hrun
      refine ⟨[], rfl, ?_⟩
      rw [List.isEmpty_nil, Bool.not_true, Bool.or_false]
      exact hfair
  | send command next ih =>
      rw [Client.run] at hrun
      obtain ⟨⟨answer, between⟩, hexecute, hlater⟩ := Option.bind_eq_some_iff.mp hrun
      obtain ⟨hanswer, first, hne, hbetween⟩ := Client.execute_converse hexecute
      obtain ⟨second, hafter, hresult⟩ := ih answer (hfair answer hanswer) hlater
      refine ⟨first ++ second, ?_, ?_⟩
      · rw [hafter, hbetween, Store.converse_append]
      · have hsent : (sent || !first.isEmpty) = true := by simp [hne]
        rwa [sent_append, hsent]
  | sendBatch commands next ih =>
      obtain ⟨hanswers, hnone, first, hempty, hbetween⟩ := Client.pipeline_converse commands session
      rcases hpipeline : Client.pipeline commands session with ⟨answers, between⟩
      rw [hpipeline] at hanswers hnone hbetween
      rw [Client.run, hpipeline] at hrun
      obtain ⟨second, hafter, hresult⟩ := ih answers (hfair answers hanswers hnone) hrun
      refine ⟨first ++ second, ?_, ?_⟩
      · rw [hafter, hbetween, Store.converse_append]
      · have hsame : first.isEmpty = commands.isEmpty := by
          rw [Bool.eq_iff_iff, List.isEmpty_iff, List.isEmpty_iff, hempty]
        rwa [sent_append, hsame]
  | measure metric next ih =>
      rw [Client.run] at hrun
      obtain ⟨received, hafter, hresult⟩ := ih hfair hrun
      exact ⟨received, hafter, hresult⟩

section Rules

variable {sent : Bool} {f : α → Dialogue β}

theorem blamesFairly_pure (a : α) : (pure a : Dialogue α).BlamesFairly sent :=
  failsWith_ok a

/-- What is found out without the store goes before everything else. -/
theorem BlamesFairly.ofExcept {x : Except Error α} (hx : Fair sent x)
    (hf : ∀ a, (f a).BlamesFairly sent) : (ofExcept x >>= f).BlamesFairly sent := by
  cases x with
  | error error => exact failsWith_error_iff.mpr (hx error rfl)
  | ok a => exact hf a

theorem BlamesFairly.execute {f : Reply → Dialogue β} (command : Command)
    (hf : ∀ reply, (f reply).BlamesFairly true) :
    (execute command >>= f).BlamesFairly sent := by
  intro answer hanswer
  cases answer with
  | error error => exact failsWith_error_iff.mpr (hanswer error rfl)
  | ok reply => exact hf reply

theorem BlamesFairly.pipeline {f : List Reply → Dialogue β} (commands : List Command)
    (hf : ∀ replies, (commands = [] → replies = []) →
      (f replies).BlamesFairly (sent || !commands.isEmpty)) :
    (pipeline commands >>= f).BlamesFairly sent := by
  intro answers hanswers hnone
  cases answers with
  | error error =>
      cases commands with
      | nil => cases hnone rfl
      | cons command commands =>
          rw [List.isEmpty_cons, Bool.not_false, Bool.or_true]
          exact failsWith_error_iff.mpr (hanswers error rfl)
  | ok replies => exact hf replies fun hnil => Except.ok.inj (hnone hnil)

end Rules

end Dialogue

/-! ### Calls -/

/-- A call that a client can make, with what it is given; it tells an `α`. -/
inductive Call : (α : Type) → Type where
  | createIndex (schema : Schema) : Call Unit
  | dropIndex (schema : Schema) (deleteDocuments : Bool) : Call Unit
  | indexExists (schema : Schema) : Call Bool
  | tagValues (schema : Schema) (column : String) : Call (List String)
  | search (schema : Schema) (request : Request) : Call SearchResults
  | count (schema : Schema) (request : Request) : Call Nat
  | find (schema : Schema) (id : String) : Call (Option Document)
  | findMany (schema : Schema) (ids : List String) : Call (List (Option Document))
  | insert (rows : List Row) : Call Nat
  | update (row : Row) : Call Unit
  | upsert (schema : Schema) (rows : List Row) (scripts : Option (List Script)) : Call Nat
  | bulk (schema : Schema) (operation : String) (rows : List Row) (scripts : List Script)
      (options : BulkOptions) : Call Nat
  | deleteByQuery (schema : Schema) (request : Request) : Call Nat
  | increment (key field : String) (amount : Int) : Call Int
  | runScript (script : Script) : Call Reply
  | execute (command : Command) : Call Reply
  | pipeline (commands : List Command) : Call (List Reply)

namespace Call

variable {α : Type}

/-- What a client says to the store in a call. -/
def dialogue (client : Client) : Call α → Dialogue α
  | .createIndex schema => Client.createIndex schema
  | .dropIndex schema deleteDocuments => Client.dropIndex schema deleteDocuments
  | .indexExists schema => Client.indexExists schema
  | .tagValues schema column => Client.tagValues schema column
  | .search schema request => client.search schema request
  | .count schema request => client.count schema request
  | .find schema id => client.find schema id
  | .findMany schema ids => client.findMany schema ids
  | .insert rows => client.insert rows
  | .update row => client.update row
  | .upsert schema rows scripts => client.upsert schema rows scripts
  | .bulk schema operation rows scripts options =>
    client.bulk schema operation rows scripts options
  | .deleteByQuery schema request => client.deleteByQuery schema request
  | .increment key field amount => Client.increment key field amount
  | .runScript script => Client.runScript script
  | .execute command => .execute command
  | .pipeline commands => .pipeline commands

open Dialogue (BlamesFairly blamesFairly_pure)

theorem indexExists_fair (schema : Schema) : (Client.indexExists schema).BlamesFairly false := by
  intro answer hanswer
  cases answer with
  | ok reply => exact failsWith_ok true
  | error error =>
      dsimp only
      split
      case h_1 => exact failsWith_ok false
      case h_2 => exact failsWith_error_iff.mpr (hanswer error rfl)

theorem pipeline_fair (commands : List Command) :
    (Dialogue.pipeline commands).BlamesFairly false := by
  intro answers hanswers hnone
  cases commands with
  | nil =>
      rw [hnone rfl]
      exact failsWith_ok []
  | cons command commands => exact hanswers

theorem findMany_fair (client : Client) (schema : Schema) (ids : List String) :
    (client.findMany schema ids).BlamesFairly false := by
  refine .pipeline _ fun replies hnone => ?_
  cases ids with
  | nil =>
      obtain rfl := hnone rfl
      exact failsWith_ok []
  | cons id ids =>
      exact FailsWith.mapM fun (id, reply) _ => client.documentOf_fair _ reply

theorem sendEntries_fair (client : Client) {entries : Except Error (List BulkEntry)}
    (hentries : Fair false entries) : (client.sendEntries entries).BlamesFairly false :=
  .ofExcept hentries fun _ => .pipeline _ fun replies _ => blamesFairly_pure replies.length

theorem deleteByQuery_fair (client : Client) (schema : Schema) (request : Request) :
    (client.deleteByQuery schema request).BlamesFairly false := by
  refine .ofExcept request.deletionCommand_fair fun command => .execute command fun reply => ?_
  refine .ofExcept (SearchResults.ofReply_fair reply _) fun results => ?_
  unfold Client.deletePage
  split
  case isTrue => exact blamesFairly_pure 0
  case isFalse => exact .execute _ fun deleted => blamesFairly_pure _

/-- No call blames the caller for an answer of the store, or the store for a call that has not been
sent. -/
theorem blamesFairly (client : Client) (call : Call α) :
    (call.dialogue client).BlamesFairly false := by
  cases call with
  | createIndex schema =>
      exact .ofExcept schema.createCommand_fair fun command => .execute command fun reply =>
        Client.expectSuccess_fair _ reply
  | dropIndex schema deleteDocuments =>
      exact .execute _ fun reply => Client.expectSuccess_fair _ reply
  | indexExists schema => exact indexExists_fair schema
  | tagValues schema column =>
      refine .ofExcept (schema.tagValuesCommand_fair column) fun command =>
        .execute command fun reply => ?_
      cases reply with
      | array items => exact blamesFairly_pure _
      | _ => exact failsWith_error_iff.mpr (due_unexpected _ _)
  | search schema request =>
      refine .ofExcept request.selectCommand_fair fun command => .execute command fun reply => ?_
      exact .ofExcept (SearchResults.ofReply_fair reply _) fun results => blamesFairly_pure results
  | count schema request =>
      exact .ofExcept request.countCommand_fair fun command => .execute command fun reply =>
        SearchResults.countOfReply_fair reply
  | find schema id => exact .execute _ fun reply => client.documentOf_fair _ reply
  | findMany schema ids => exact findMany_fair client schema ids
  | insert rows =>
      exact .ofExcept (Write.insert_fair client.config rows) fun commands =>
        .pipeline commands fun replies _ => blamesFairly_pure replies.length
  | update row =>
      exact .ofExcept (Write.store_fair client.config 0 row) fun command =>
        .execute command fun _ => blamesFairly_pure ()
  | upsert schema rows scripts =>
      exact sendEntries_fair client (Write.upsert_fair schema rows scripts)
  | bulk schema operation rows scripts options =>
      exact sendEntries_fair client (Write.bulk_fair schema operation rows scripts options)
  | deleteByQuery schema request => exact deleteByQuery_fair client schema request
  | increment key field amount =>
      refine .execute _ fun reply => ?_
      split
      case h_1 n _ => exact blamesFairly_pure n
      case h_2 => exact failsWith_error_iff.mpr (due_unexpected _ _)
  | runScript script => exact fun answer hanswer => hanswer
  | execute command => exact fun answer hanswer => hanswer
  | pipeline commands => exact pipeline_fair commands

end Call

/-- A call that fails is a mistake of the caller exactly if the store has received nothing in the
course of it, and then the hashes are as they were. -/
theorem failure_before_sending_iff {α : Type} (client : Client) (call : Call α)
    (session : Session Store) {error : Error} {after : Session Store}
    (hfails : client.run (call.dialogue client) session = some (.error error, after)) :
    ∃ received, after.transport.sent = session.transport.sent ++ received ∧
      (error.isValidation = true ↔ received = []) ∧
      (error.isValidation = true → after.transport.hashes = session.transport.hashes) := by
  obtain ⟨received, hafter, hdue⟩ := (call.blamesFairly client).run hfails
  have hreceived : error.isValidation = true ↔ received = [] := by
    have herror : error.isValidation = received.isEmpty := by simpa [Error.Due] using hdue
    rw [herror, List.isEmpty_iff]
  refine ⟨received, ?_, hreceived, fun hvalidation => ?_⟩
  · rw [hafter, Store.sent_converse]
  · rw [hafter, hreceived.mp hvalidation]
    rfl

/-- An index of books. -/
def books : Schema :=
  { name := "books", fields := [.text "title"] }

/-- Deletes the books of a title, which is looked for in a column. -/
def deletionBy (column : String) : Call Nat :=
  .deleteByQuery books {
    index := "books"
    clauses := [{ junction := .and, predicate := .test column (.compare .eq (.text "Emma")) }] }

/-- A store with a book in it, where searches break off. -/
def brokenSearches : Session Store where
  transport := (Store.converse [.ofTexts "HSET" ["books::1", "title", "Emma"]] {}).2.prepare
    "ft.search" (.error (.connection "reset by peer"))

/-- A deletion by a column that is not there is not sent; one that breaks off is no mistake of the
caller. -/
theorem deletion_failures :
    (∃ after received, Client.run {} (Call.dialogue {} (deletionBy "titel")) brokenSearches =
        some (.error (.unknownField "books" "titel"), after) ∧
      after.transport.sent = brokenSearches.transport.sent ++ received ∧ received = [] ∧
      after.transport.hashes = brokenSearches.transport.hashes) ∧
    ∃ after received, Client.run {} (Call.dialogue {} (deletionBy "title")) brokenSearches =
        some (.error (.transport (.connection "reset by peer")), after) ∧
      after.transport.sent = brokenSearches.transport.sent ++ received ∧ received ≠ [] := by
  constructor
  · have hfails : ∃ after, Client.run {} (Call.dialogue {} (deletionBy "titel")) brokenSearches =
        some (.error (.unknownField "books" "titel"), after) := ⟨_, rfl⟩
    obtain ⟨after, hfails⟩ := hfails
    obtain ⟨received, hsent, hreceived, hhashes⟩ :=
      failure_before_sending_iff {} (deletionBy "titel") brokenSearches hfails
    exact ⟨after, received, hfails, hsent, hreceived.mp rfl, hhashes rfl⟩
  · have hfails : ∃ after, Client.run {} (Call.dialogue {} (deletionBy "title")) brokenSearches =
        some (.error (.transport (.connection "reset by peer")), after) := ⟨_, rfl⟩
    obtain ⟨after, hfails⟩ := hfails
    obtain ⟨received, hsent, hreceived, -⟩ :=
      failure_before_sending_iff {} (deletionBy "title") brokenSearches hfails
    refine ⟨after, received, hfails, hsent, fun hnone => ?_⟩
    exact absurd (hreceived.mpr hnone) Bool.false_ne_true

end FullText
