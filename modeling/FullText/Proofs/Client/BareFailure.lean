import FullText.Proofs.Client.Answers
import FullText.Proofs.Client.Calls
import FullText.Proofs.Client.Course

/-!
Bare failures. A store may answer a bare `false`, and leave the reason behind. What becomes of that
differs from call to call: creating and dropping an index notice it, other calls only if the reason
is a known fault, and writes in batches never do.
-/

namespace FullText

/-! ### Failing answers -/

/-- An answer that is no success: an error, or a bare `false`. -/
def Failing : Except TransportError Reply → Prop
  | .error _ | .ok (.bool false) => True
  | .ok _ => False

theorem failing_ok_iff {reply : Reply} : Failing (.ok reply) ↔ reply = .bool false := by
  cases reply with
  | bool b => cases b <;> simp [Failing]
  | _ => simp [Failing]

/-! ### Single commands and batches -/

namespace Client

variable {σ α : Type} [Transport σ]

/-- A failure of the only command of a dialogue is overlooked if it is a bare one that has no known
reason and is taken for a success. -/
theorem run_execute_finish (client : Client) (command : Command)
    (finish : Reply → Except Error α) (session : Session σ) {dialogue : Dialogue α}
    (hdialogue : dialogue = (.execute command >>= fun reply => .ofExcept (finish reply)))
    (hfails : ∃ answer ∈ client.answers dialogue session, Failing answer) :
    ∃ result after, client.run dialogue session = some (result, after) ∧
      ((∃ told, result = .ok told) ↔
        (∃ told, finish (.bool false) = .ok told) ∧
        client.answers dialogue session = [.ok (.bool false)] ∧
        Unexplained (Transport.lastError after.transport)) := by
  subst hdialogue
  obtain ⟨answer, hmem, hfailing⟩ := hfails
  cases client.begins command (fun reply => .ofExcept (finish reply)) session with
  | unanswered _ hnone =>
      rw [hnone] at hmem
      cases hmem
  | failed hrun _ hone hknown =>
      refine ⟨_, _, hrun, ?_⟩
      rw [hone]
      constructor
      · rintro ⟨told, htold⟩
        cases htold
      · rintro ⟨-, hbare, hreason⟩
        exact absurd hreason (hknown (List.singleton_inj.mp hbare))
  | @replied reply after hrun _ hone hunknown =>
      have hanswers : client.answers (.execute command >>= fun reply => .ofExcept (finish reply))
          session = [.ok reply] := hone
      refine ⟨finish reply, after, hrun, ?_⟩
      rw [hanswers, List.mem_singleton] at hmem
      rw [hmem, failing_ok_iff] at hfailing
      rw [hanswers, hfailing]
      exact ⟨fun htold => ⟨htold, rfl, hunknown hfailing⟩, fun h => h.1⟩

/-- A batch is a success if all of its answers are replies that pass. -/
theorem pipeline_ok_iff (commands : List Command) (session : Session σ) :
    (∃ replies, (pipeline commands session).1 = .ok replies) ↔
      ∀ answer ∈ answersToBatch commands session, ∃ reply, answer = .ok reply ∧ reply.Passes := by
  cases commands with
  | nil => simp [pipeline, answersToBatch]
  | cons command commands =>
      simp only [pipeline_eq_ok_iff (List.cons_ne_nil _ _), answersToBatch, List.isEmpty_cons,
        Bool.false_eq_true, if_false]
      cases (Transport.pipeline (command :: commands) session.transport).1 with
      | ok replies => simp
      | error error => simp

/-- What is put together before a command is sent has been put together if there are answers. -/
theorem bind_of_answers {β : Type} {client : Client} {session : Session σ} {x : Except Error β}
    {f : β → Dialogue α} {dialogue : Dialogue α} {p : Except TransportError Reply → Prop}
    (hdialogue : dialogue = (.ofExcept x >>= f))
    (hsome : ∃ answer ∈ client.answers dialogue session, p answer) :
    ∃ b, dialogue = f b := by
  cases x with
  | ok b => exact ⟨b, hdialogue⟩
  | error error =>
      subst hdialogue
      obtain ⟨answer, hmem, -⟩ := hsome
      cases hmem

/-- Counting the replies to a batch looks at nothing but whether they pass. -/
theorem run_sendAll_iff (client : Client) (commands : List Command) (session : Session σ)
    {dialogue : Dialogue Nat} (hdialogue : dialogue = sendAll commands) :
    ∃ result after, client.run dialogue session = some (result, after) ∧
      ((∃ told, result = .ok told) ↔
        ∀ answer ∈ client.answers dialogue session, ∃ reply, answer = .ok reply ∧ reply.Passes) := by
  subst hdialogue
  refine ⟨_, _, client.run_sendAll commands session, ?_⟩
  have hanswers : client.answers (sendAll commands) session = answersToBatch commands session := by
    change client.answers (.sendBatch commands _) session = _
    rcases hpipeline : pipeline commands session with ⟨results, after⟩
    rw [answers, hpipeline]
    cases results with
    | ok replies => exact List.append_nil _
    | error error => exact List.append_nil _
  rw [hanswers, ← pipeline_ok_iff]
  cases (pipeline commands session).1 with
  | ok replies => simp [Except.map]
  | error error => simp [Except.map]

end Client

/-! ### What becomes of it -/

namespace Call

variable {α : Type}

/-- A call that is to bring something about, or asks whether it is there. -/
def Acts : Call α → Prop
  | .createIndex _ | .dropIndex _ _ | .indexExists _ | .insert _ | .update _ | .upsert _ _ _
  | .bulk _ _ _ _ _ | .deleteByQuery _ _ => True
  | _ => False

/-- A result that reports a success. An index that is not there is none. -/
def Affirms : Call α → Except Error α → Prop
  | .indexExists _, result => result = .ok true
  | _, result => ∃ told, result = .ok told

/-- What a call that acts does not notice: a bare failure of the command that it sends, or of the
deletion that follows a search, unless that is explained by a known fault; and in a batch any bare
failure, as long as the other replies pass. -/
def Overlooks (answers : List (Except TransportError Reply)) (lastError : Option String) :
    Call α → Prop
  | .indexExists _ | .update _ =>
    answers = [.ok (.bool false)] ∧ Unexplained lastError
  | .deleteByQuery _ _ =>
    (∃ found, answers = [found, .ok (.bool false)]) ∧ Unexplained lastError
  | .insert _ | .upsert _ _ _ | .bulk _ _ _ _ _ =>
    ∀ answer ∈ answers, ∃ reply, answer = .ok reply ∧ reply.Passes
  | _ => False

section Calls

variable {σ : Type} [Transport σ] (client : Client) (session : Session σ)

/-- Any reply tells that an index is there, and no error does. -/
theorem indexExists_eq_send (schema : Schema) :
    ∃ next, Client.indexExists schema = .send schema.infoCommand next ∧
      (∀ reply, next (.ok reply) = .done (.ok true)) ∧
      ∀ error, ∃ result, result ≠ .ok true ∧ next (.error error) = .done result := by
  refine ⟨_, rfl, fun _ => rfl, fun error => ?_⟩
  dsimp only
  split
  case h_1 => exact ⟨.ok false, by simp, rfl⟩
  case h_2 => exact ⟨.error error, by simp, rfl⟩

theorem indexExists_overlooks (schema : Schema)
    (hfails : ∃ answer ∈ client.answers (Client.indexExists schema) session, Failing answer) :
    ∃ result after, client.run (Client.indexExists schema) session = some (result, after) ∧
      (result = .ok true ↔
        client.answers (Client.indexExists schema) session = [.ok (.bool false)] ∧
        Unexplained (Transport.lastError after.transport)) := by
  obtain ⟨next, hdialogue, hreply, herror⟩ := indexExists_eq_send schema
  rw [hdialogue] at hfails ⊢
  obtain ⟨answer, hmem, hfailing⟩ := hfails
  rw [Client.run]
  rw [Client.answers] at hmem ⊢
  obtain ⟨hexecute, hnone⟩ | ⟨told, result, after, hexecute, hone, htells⟩ :=
    client.execute_cases schema.infoCommand session
  · rw [hexecute, hnone] at hmem
    cases hmem
  · rw [hexecute, hone] at hmem ⊢
    cases result with
    | ok reply =>
        obtain ⟨rfl, hunknown⟩ := htells.eq_ok_iff.mp rfl
        simp only [hreply, Option.bind_some, Client.run, Client.answers, List.append_nil] at hmem ⊢
        obtain rfl := List.mem_singleton.mp hmem
        obtain rfl := failing_ok_iff.mp hfailing
        exact ⟨.ok true, after, rfl, fun _ => ⟨rfl, hunknown⟩, fun _ => rfl⟩
    | error error =>
        obtain ⟨noted, hnoted, hdone⟩ := herror error
        simp only [hdone, Option.bind_some, Client.run, Client.answers, List.append_nil]
        refine ⟨noted, after, rfl, iff_of_false hnoted ?_⟩
        rintro ⟨hbare, hunknown⟩
        obtain rfl := List.singleton_inj.mp hbare
        cases htells.of_unknown hunknown

theorem deletePage_overlooks (results : SearchResults)
    (hfails : ∃ answer ∈ client.answers (Client.deletePage results) session, Failing answer) :
    ∃ result after, client.run (Client.deletePage results) session = some (result, after) ∧
      ((∃ told, result = .ok told) ↔
        client.answers (Client.deletePage results) session = [.ok (.bool false)] ∧
        Unexplained (Transport.lastError after.transport)) := by
  by_cases hempty : results.isEmpty = true
  · have hdialogue : Client.deletePage results = return 0 := if_pos hempty
    rw [hdialogue] at hfails
    obtain ⟨answer, hmem, -⟩ := hfails
    cases hmem
  · obtain ⟨result, after, hrun, htold⟩ := client.run_execute_finish
      (Write.deleteCommand results.keys) (fun deleted => .ok (deleted.toInt?.getD 0).toNat)
      session (if_neg hempty) hfails
    exact ⟨result, after, hrun, htold.trans (and_iff_right ⟨_, rfl⟩)⟩

theorem deleteByQuery_overlooks (schema : Schema) (request : Request)
    (hfails : ∃ answer ∈ client.answers (client.deleteByQuery schema request) session,
      Failing answer) :
    ∃ result after, client.run (client.deleteByQuery schema request) session =
        some (result, after) ∧
      ((∃ told, result = .ok told) ↔
        (∃ found, client.answers (client.deleteByQuery schema request) session =
          [found, .ok (.bool false)]) ∧
        Unexplained (Transport.lastError after.transport)) := by
  unfold Client.deleteByQuery at hfails ⊢
  obtain ⟨command, hdialogue⟩ := Client.bind_of_answers rfl hfails
  rw [hdialogue] at hfails ⊢
  obtain ⟨answer, hmem, hfailing⟩ := hfails
  cases client.begins command _ session with
  | unanswered _ hnone =>
      rw [hnone] at hmem
      cases hmem
  | failed hrun _ hone =>
      refine ⟨_, _, hrun, ?_⟩
      rw [hone]
      simp
  | @replied found between hrun _ hanswers =>
      rw [hrun, hanswers]
      rw [hanswers] at hmem
      cases hresults : SearchResults.ofReply found client.config.nullSentinel with
      | error error =>
          refine ⟨.error error, between, rfl, ?_⟩
          change _ ↔ (∃ first, [Except.ok found] = _) ∧ _
          simp
      | ok results =>
          -- A bare failure tells no results, so it is the deletion that has failed.
          have hfound : answer ≠ .ok found := by
            rintro rfl
            obtain rfl := failing_ok_iff.mp hfailing
            cases hresults
          have hlater := (List.mem_cons.mp hmem).resolve_left hfound
          rw [hresults] at hlater
          obtain ⟨result, after, hend, htold⟩ :=
            deletePage_overlooks client between results ⟨answer, hlater, hfailing⟩
          refine ⟨result, after, hend, htold.trans (and_congr_left fun _ => ?_)⟩
          constructor
          · intro hbare
            exact ⟨.ok found, congrArg (List.cons (.ok found)) hbare⟩
          · rintro ⟨first, hboth⟩
            exact (List.cons.inj hboth).2

end Calls

end Call

/-- A call in the course of which the store fails comes to an end, and reports a success exactly if
it overlooks the failure. -/
theorem failure_overlooked_iff {σ α : Type} [Transport σ] (client : Client) (call : Call α)
    (session : Session σ) (hacts : call.Acts)
    (hfails : ∃ answer ∈ client.answers (call.dialogue client) session, Failing answer) :
    ∃ result after, client.run (call.dialogue client) session = some (result, after) ∧
      (call.Affirms result ↔
        call.Overlooks (client.answers (call.dialogue client) session)
          (Transport.lastError after.transport)) := by
  cases call with
  | createIndex schema =>
      obtain ⟨command, hdialogue⟩ := Client.bind_of_answers rfl hfails
      obtain ⟨result, after, hrun, htold⟩ :=
        client.run_execute_finish command _ session hdialogue hfails
      refine ⟨result, after, hrun, ?_⟩
      simpa [Call.Affirms, Call.Overlooks, Client.expectSuccess] using htold
  | dropIndex schema deleteDocuments =>
      obtain ⟨result, after, hrun, htold⟩ := client.run_execute_finish _ _ session rfl hfails
      refine ⟨result, after, hrun, ?_⟩
      simpa [Call.Affirms, Call.Overlooks, Client.expectSuccess] using htold
  | indexExists schema => exact Call.indexExists_overlooks client session schema hfails
  | insert rows =>
      obtain ⟨commands, hdialogue⟩ := Client.bind_of_answers rfl hfails
      exact client.run_sendAll_iff commands session hdialogue
  | update row =>
      obtain ⟨command, hdialogue⟩ := Client.bind_of_answers rfl hfails
      obtain ⟨result, after, hrun, htold⟩ :=
        client.run_execute_finish command (fun _ => .ok ()) session hdialogue hfails
      exact ⟨result, after, hrun, htold.trans (and_iff_right ⟨(), rfl⟩)⟩
  | upsert schema rows scripts =>
      obtain ⟨entries, hdialogue⟩ := Client.bind_of_answers rfl hfails
      exact client.run_sendAll_iff _ session hdialogue
  | bulk schema operation rows scripts options =>
      obtain ⟨entries, hdialogue⟩ := Client.bind_of_answers rfl hfails
      exact client.run_sendAll_iff _ session hdialogue
  | deleteByQuery schema request =>
      exact Call.deleteByQuery_overlooks client session schema request hfails
  | _ => exact hacts.elim

/-- A store that finds a book, and can neither make an index nor write nor delete. -/
def fullDisk : Session Store where
  transport :=
    let found := Store.prepare {} "FT.SEARCH" (.reply (.array [.int 1, .bulk "books::1"]))
    ["FT.CREATE", "HSET", "DEL"].foldl (fun store name => store.prepare name (.silent "disk full"))
      found

/-- On the full disk an index is not made, and that is told; a book is not deleted, and that is
not. -/
theorem fullDisk_overlooked :
    (∃ result after, Client.run {} (Call.dialogue {} (.createIndex books)) fullDisk =
        some (result, after) ∧ ¬Call.Affirms (.createIndex books) result) ∧
    ∃ result after, Client.run {} (Call.dialogue {} (deletionBy "title")) fullDisk =
        some (result, after) ∧ Call.Affirms (deletionBy "title") result := by
  constructor
  · have hanswers : Client.answers {} (Call.dialogue {} (.createIndex books)) fullDisk =
        [.ok (.bool false)] := rfl
    obtain ⟨result, after, hrun, haffirms⟩ := failure_overlooked_iff {} (.createIndex books)
      fullDisk trivial ⟨.ok (.bool false), by rw [hanswers]; simp, trivial⟩
    exact ⟨result, after, hrun, haffirms.mp⟩
  · have hanswers : Client.answers {} (Call.dialogue {} (deletionBy "title")) fullDisk =
        [.ok (.array [.int 1, .bulk "books::1"]), .ok (.bool false)] := rfl
    obtain ⟨result, after, hrun, haffirms⟩ := failure_overlooked_iff {} (deletionBy "title")
      fullDisk trivial ⟨.ok (.bool false), by rw [hanswers]; simp, trivial⟩
    have hlast : (Client.run {} (Call.dialogue {} (deletionBy "title")) fullDisk).map
        (fun ended => ended.2.transport.lastError) = some (some "disk full") := rfl
    rw [hrun] at hlast
    have hunknown : Unexplained (Transport.lastError after.transport) := by
      rw [show Transport.lastError after.transport = some "disk full" from Option.some.inj hlast]
      rfl
    exact ⟨result, after, hrun, haffirms.mpr ⟨⟨_, hanswers⟩, hunknown⟩⟩

/-- A book. -/
def emma : Row :=
  .ofList [("_key", .text "books::1"), ("title", .text "Emma")]

/-- An update that the store has failed to write is told as a success. -/
theorem fullDisk_update_affirmed :
    ∃ after, Client.run {} (Call.dialogue {} (.update emma)) fullDisk = some (.ok (), after) ∧
      Client.answers {} (Call.dialogue {} (.update emma)) fullDisk = [.ok (.bool false)] :=
  ⟨_, rfl, rfl⟩

end FullText
