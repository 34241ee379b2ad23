import FullText.Client.Calls
import FullText.Proofs.Client.Answers
import FullText.Proofs.Retry
import FullText.Proofs.Store.Batch

/-!
Calls of a client on the store in memory. A batch is the conversation of its commands, and is a
success only if every command is; finding a document brings what was written at its key.
-/

namespace FullText

/-- An array that the transport answers with is what the client answers with. -/
theorem Client.execute_array {σ : Type} [Transport σ] (client : Client) {command : Command}
    {session : Session σ} {items : List Reply} {left : σ}
    (hanswer : Transport.execute command session.transport = (.ok (.array items), left)) :
    ∃ after, client.execute command session = some (.ok (.array items), after) := by
  unfold Client.execute
  rw [client.retry.attempt_of_ok TransportError.isRetryable hanswer]
  exact ⟨_, rfl⟩

/-! ### Batches -/

/-- How an exchange is told as one of the replies to a batch. -/
def Exchange.reply : Exchange → Reply
  | (_, .ok reply) => reply
  | (_, .error error) => .error error.message

/-- A store without prepared answers answers everything. -/
theorem Store.Follows.told {store : Store} {exchanges : List Exchange}
    (hfollows : store.Follows exchanges) (command : Command) :
    ToldAs (Store.execute command store).1
      (Exchange.reply (command, (Store.execute command store).1)) := by
  have hstep := (hfollows.execute_step command).1
  cases hanswer : (Store.execute command store).1 with
  | ok reply => exact .reply reply
  | error error =>
      rw [hanswer] at hstep
      obtain ⟨⟨message, rfl⟩, -⟩ := hstep.error
      exact .error message

/-- A batch on the store is the conversation of its commands. -/
theorem oneByOne_execute {store : Store} {exchanges : List Exchange}
    (hfollows : store.Follows exchanges) (commands : List Command) :
    Transport.oneByOne Store.execute commands store =
      (.ok ((Store.converse commands store).1.map Exchange.reply),
        (Store.converse commands store).2) := by
  induction commands generalizing store exchanges with
  | nil => rfl
  | cons command commands ih =>
      rw [Transport.oneByOne_cons_of_told (hfollows.told command),
        ih (hfollows.execute command), Store.converse_cons]
      rfl

namespace Client

/-- A batch that is a success is a conversation in which every command is. -/
theorem pipeline_eq_ok {session after : Session Store} {exchanges : List Exchange}
    {commands : List Command} {replies : List Reply}
    (hfollows : session.transport.Follows exchanges)
    (hok : pipeline commands session = (.ok replies, after)) :
    after.transport = (Store.converse commands session.transport).2 ∧
      replies.length = commands.length ∧
      ∀ exchange ∈ (Store.converse commands session.transport).1,
        ∃ reply, exchange.2 = .ok reply := by
  cases commands with
  | nil =>
      cases hok
      exact ⟨rfl, rfl, by simp [Store.converse]⟩
  | cons command commands =>
      have hbatch : Transport.pipeline (command :: commands) session.transport = _ :=
        oneByOne_execute hfollows (command :: commands)
      simp only [pipeline, hbatch, List.isEmpty_cons, Bool.false_eq_true, if_false] at hok
      obtain ⟨hreplies, hafter⟩ := Prod.mk.inj hok
      obtain ⟨rfl, hpass⟩ := classifyBatch_eq_ok_iff.mp hreplies
      refine ⟨hafter ▸ rfl, ?_, ?_⟩
      · rw [List.length_map, Store.length_converse]
      · rintro ⟨asked, answer⟩ hmem
        cases answer with
        | ok reply => exact ⟨reply, rfl⟩
        | error error => cases (hpass _ (List.mem_map_of_mem hmem)).not_error

theorem run_sendAll {σ : Type} [Transport σ] (client : Client) (commands : List Command)
    (session : Session σ) :
    client.run (sendAll commands) session =
      some ((pipeline commands session).1.map List.length, (pipeline commands session).2) := by
  change client.run (.sendBatch commands _) session = _
  rcases hpipeline : pipeline commands session with ⟨answers, after⟩
  rw [run, hpipeline]
  cases answers with
  | ok replies => rfl
  | error error => rfl

/-! ### Documents -/

/-- The attribute of a document that a stored text is. -/
def decoded (config : Config) : String × String → String × Option String
  | (name, text) => (name, if text = config.nullSentinel then none else some text)

theorem fieldsOf_flat (config : Config) (entries : List (String × String)) :
    Document.fieldsOf config.nullSentinel
        (entries.flatMap fun (field, value) => [.bulk field, .bulk value]) =
      .ok (entries.map (decoded config)) := by
  induction entries with
  | nil => rfl
  | cons entry entries ih =>
      obtain ⟨name, text⟩ := entry
      have hvalue : Document.fieldValue config.nullSentinel (.bulk text) =
          if text = config.nullSentinel then none else some text := by
        simp only [Document.fieldValue, Reply.text?, Option.filter]
        by_cases hnull : text = config.nullSentinel
        · simp [hnull]
        · simp [hnull]
      simp only [List.flatMap_cons, List.cons_append, List.nil_append, List.map_cons,
        Document.fieldsOf, ih, hvalue]
      rfl

/-- The document with the entries of a hash; without entries there is none. -/
def documentWith (config : Config) (key : String) (entries : List (String × String)) :
    Option Document :=
  if entries = [] then none else some { key, fields := entries.map (decoded config) }

theorem documentOf_flat (client : Client) (key : String) (entries : List (String × String)) :
    client.documentOf key
        (.array (entries.flatMap fun (field, value) => [.bulk field, .bulk value])) =
      .ok (documentWith client.config key entries) := by
  cases entries with
  | nil => rfl
  | cons entry entries =>
      let pairs : List Reply :=
        (entry :: entries).flatMap fun (field, value) => [.bulk field, .bulk value]
      have heven : pairs.length % 2 = 0 := by
        have hlength : pairs.length = 2 * (entry :: entries).length := by
          simp [pairs, List.length_flatMap, Nat.mul_comm]
          omega
        omega
      have hread : Document.ofPairs key pairs client.config.nullSentinel =
          .ok { key, fields := (entry :: entries).map (decoded client.config) } := by
        rw [Document.ofPairs, if_neg (by simp [heven]), fieldsOf_flat]
        rfl
      change (Document.ofPairs key pairs client.config.nullSentinel).map some = _
      rw [hread]
      rfl

/-- Finding a document brings what was written at its key. -/
theorem run_find (client : Client) (schema : Schema) (id : String) {session : Session Store}
    {exchanges : List Exchange} (hfollows : session.transport.Follows exchanges) :
    ∃ after, client.run (client.find schema id) session =
      some (.ok (documentWith client.config (client.config.documentKey schema.name id)
        (OrderedMap.listing (written (client.config.documentKey schema.name id) exchanges))),
        after) := by
  have hname : Text.upper "HGETALL" = "HGETALL" := by decide
  have hanswer := (hfollows.execute_step (Write.readCommand client.config schema id)).1.hgetall
    hname (Command.argTexts_ofTexts "HGETALL" [client.config.documentKey schema.name id])
  rw [hfollows.hashAt_eq, OrderedMap.entries_ofList] at hanswer
  obtain ⟨after, hexecute⟩ := client.execute_array (Prod.ext hanswer rfl)
  refine ⟨after, ?_⟩
  change client.run (.send (Write.readCommand client.config schema id) _) session = _
  rw [run, hexecute]
  change client.run (.done (client.documentOf _ _)) after = _
  rw [documentOf_flat]
  rfl

end Client

end FullText
