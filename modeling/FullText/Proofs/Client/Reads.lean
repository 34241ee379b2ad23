import FullText.Proofs.Client.Batches
import FullText.Proofs.Client.Calls
import FullText.Proofs.Except
import FullText.Proofs.Store.Conversation

/-!
Reading in batches, on a store in any state. Commands that read are answered alike, whenever and
however often they are sent, so that documents that are read in one batch are the documents that are
read one by one.
-/

namespace FullText

/-! ### Commands that read -/

namespace Store

section Read

variable {command : Command} (hread : Text.upper command.name = "HGETALL")
include hread

/-- Reading changes nothing but the record of what has been received. -/
theorem execute_read_alike (store : Store) : (execute command store).2.Alike store := by
  refine ⟨?_, prepared_execute command store⟩
  unfold execute
  dsimp only
  split
  case h_4 =>
    simp only [perform, hread, hgetall]
    split
    case h_1 => rfl
    case h_2 => rfl
  all_goals rfl

/-- However often reading is tried, the answer is the one to the first attempt. -/
theorem attempt_read {policy : RetryPolicy} {retryable : TransportError → Bool} {store : Store}
    {attempts : Attempts Store TransportError Reply}
    (hattempt : policy.attempt retryable (execute command) store = some attempts) :
    attempts.outcome = (execute command store).1 := by
  obtain ⟨last, halike, hlast⟩ := RetryPolicy.attempt_last (P := fun s => s.Alike store)
    (fun s hs => (execute_read_alike hread s).trans hs) ⟨rfl, rfl⟩ hattempt
  rw [← (halike.execute command).1, hlast]

end Read

/-- Commands that read have the same answers in a batch as alone. -/
theorem oneByOne_reads_iff {commands : List Command}
    (hreads : ∀ command ∈ commands, Text.upper command.name = "HGETALL") {store : Store}
    {replies : List Reply} :
    (Transport.oneByOne execute commands store).1 = .ok replies ↔
      List.Forall₂ (fun command reply => inBatch (execute command store).1 = .ok reply)
        commands replies := by
  induction commands generalizing store replies with
  | nil =>
      rw [List.forall₂_nil_left_iff]
      simp [Transport.oneByOne, eq_comm]
  | cons command commands ih =>
      obtain ⟨hread, hothers⟩ := List.forall_mem_cons.mp hreads
      -- The induction runs over the stores that reading leaves, which answer as the first one does.
      have hlater : ∀ later, (execute later (execute command store).2).1 =
          (execute later store).1 := fun later =>
        ((execute_read_alike hread store).execute later).1
      rw [List.forall₂_cons_left_iff, Transport.oneByOne_cons]
      cases inBatch (execute command store).1 with
      | error error => simp
      | ok reply =>
          simp only [map_eq_ok_iff, ih hothers, hlater, Except.ok.injEq]
          constructor
          · rintro ⟨rest, hrest, rfl⟩
            exact ⟨reply, rest, rfl, hrest, rfl⟩
          · rintro ⟨_, rest, rfl, hrest, rfl⟩
            exact ⟨rest, hrest, rfl⟩

end Store

/-! ### Documents in a batch -/

/-- Relating items by way of a list in between is relating each of them by way of one item. -/
theorem forall₂_between_iff {α β γ : Type} {R : α → β → Prop} {p : β → Prop}
    {S : α → β → γ → Prop} {as : List α} {cs : List γ} :
    (∃ bs, (List.Forall₂ R as bs ∧ ∀ b ∈ bs, p b) ∧
        List.Forall₂ (fun (a, b) c => S a b c) (as.zip bs) cs) ↔
      List.Forall₂ (fun a c => ∃ b, (R a b ∧ p b) ∧ S a b c) as cs := by
  induction as generalizing cs with
  | nil => simp
  | cons a as ih =>
      rw [List.forall₂_cons_left_iff]
      constructor
      · rintro ⟨bs, ⟨hrelated, hall⟩, hfound⟩
        obtain ⟨b, more, hb, hmore, rfl⟩ := List.forall₂_cons_left_iff.mp hrelated
        obtain ⟨hpb, hpmore⟩ := List.forall_mem_cons.mp hall
        obtain ⟨c, rest, hc, hrest, rfl⟩ := List.forall₂_cons_left_iff.mp hfound
        exact ⟨c, rest, ⟨b, ⟨hb, hpb⟩, hc⟩, ih.mp ⟨more, ⟨hmore, hpmore⟩, hrest⟩, rfl⟩
      · rintro ⟨c, rest, ⟨b, ⟨hb, hpb⟩, hc⟩, hmore, rfl⟩
        obtain ⟨bs, ⟨hrelated, hall⟩, hfound⟩ := ih.mpr hmore
        exact ⟨b :: bs, ⟨.cons hb hrelated, List.forall_mem_cons.mpr ⟨hpb, hall⟩⟩,
          .cons hc hfound⟩

namespace Client

/-- On the store, the replies to a batch are those to its commands, one by one. -/
theorem pipeline_store_iff {commands : List Command} {session : Session Store}
    {replies : List Reply} :
    (pipeline commands session).1 = .ok replies ↔
      (Transport.oneByOne Store.execute commands session.transport).1 = .ok replies ∧
        ∀ reply ∈ replies, reply.Passes := by
  cases commands with
  | cons command commands => exact pipeline_eq_ok_iff (List.cons_ne_nil _ _)
  | nil =>
      simp only [pipeline, Transport.oneByOne, List.isEmpty_nil, if_true, Except.ok.injEq]
      constructor
      · rintro rfl
        simp
      · exact fun h => h.1

/-- A reply that is told of a command that reads is the store's, and reports nothing. -/
theorem execute_read_iff (client : Client) {command : Command}
    (hread : Text.upper command.name = "HGETALL") {session : Session Store} {reply : Reply}
    (hbare : reply ≠ .bool false) :
    (∃ after, client.execute command session = some (.ok reply, after)) ↔
      (Store.execute command session.transport).1 = .ok reply ∧ reply.reported? = none := by
  have hreported : ∀ lastError,
      faultBehind? lastError (.ok reply) = reply.reported? := fun lastError => by
    rw [faultBehind?_eq_none_left fun h => absurd (Except.ok.inj h) hbare, faultBehind?_none_ok]
  constructor
  · rintro ⟨after, hexecute⟩
    obtain ⟨attempts, hattempt, htold⟩ := Option.map_eq_some_iff.mp hexecute
    obtain ⟨hanswer, hunknown⟩ :=
      (outcomeOf_tells attempts command.argTexts).eq_ok_iff.mp (Prod.mk.inj htold).1
    rw [hanswer, hreported] at hunknown
    rw [← Store.attempt_read hread hattempt]
    exact ⟨hanswer, hunknown⟩
  · rintro ⟨hanswer, hunreported⟩
    have hattempt := client.retry.attempt_of_ok TransportError.isRetryable
      (Prod.ext hanswer rfl : Transport.execute command session.transport = (.ok reply, _))
    obtain ⟨result, after, hexecute, -, htells⟩ := execute_tells hattempt
    obtain rfl := htells.eq_ok_iff.mpr ⟨rfl, (hreported _).trans hunreported⟩
    exact ⟨after, hexecute⟩

theorem documentOf_ok {client : Client} {key : String} {reply : Reply} {found : Option Document}
    (hfound : client.documentOf key reply = .ok found) :
    reply ≠ .bool false ∧ reply.isError = false := by
  cases reply with
  | bool b => cases hfound
  | error message => cases hfound
  | _ => exact ⟨nofun, rfl⟩

section Finds

variable (client : Client) (schema : Schema)

theorem readCommand_reads (id : String) :
    Text.upper (Write.readCommand client.config schema id).name = "HGETALL" := by
  change Text.upper "HGETALL" = "HGETALL"
  decide

/-- What a store tells of the document at an id. -/
def Finds (store : Store) (id : String) (found : Option Document) : Prop :=
  ∃ reply, ((Store.execute (Write.readCommand client.config schema id) store).1 = .ok reply ∧
      reply.Passes) ∧
    client.documentOf (client.config.documentKey schema.name id) reply = .ok found

theorem find_eq_ok_iff {session : Session Store} {id : String} {found : Option Document} :
    (∃ after, client.run (client.find schema id) session = some (.ok found, after)) ↔
      client.Finds schema session.transport id found := by
  have hread := client.readCommand_reads schema id
  change (∃ after, client.run (.send (Write.readCommand client.config schema id) _) session =
    some (.ok found, after)) ↔ _
  simp only [run, Option.bind_eq_some_iff]
  constructor
  · rintro ⟨after, ⟨result, between⟩, hexecute, hdecode⟩
    cases result with
    | error error => cases hdecode
    | ok reply =>
        have hfound : client.documentOf _ reply = .ok found :=
          (Prod.mk.inj (Option.some.inj hdecode)).1
        obtain ⟨hbare, hnoerror⟩ := documentOf_ok hfound
        obtain ⟨hanswer, hunreported⟩ :=
          (client.execute_read_iff hread hbare).mp ⟨between, hexecute⟩
        exact ⟨reply, ⟨hanswer, hunreported, hnoerror⟩, hfound⟩
  · rintro ⟨reply, ⟨hanswer, hpasses⟩, hfound⟩
    obtain ⟨between, hexecute⟩ := (client.execute_read_iff hread (documentOf_ok hfound).1).mpr
      ⟨hanswer, hpasses.unreported⟩
    refine ⟨between, _, hexecute, ?_⟩
    change some (client.documentOf _ reply, between) = _
    rw [hfound]

/-- Finding many documents decodes the replies to a batch. -/
theorem run_findMany_iff {session : Session Store} {ids : List String}
    {found : List (Option Document)} :
    (∃ after, client.run (client.findMany schema ids) session = some (.ok found, after)) ↔
      ∃ replies, (pipeline (Write.readCommands client.config schema ids) session).1 = .ok replies ∧
        ((ids.zip replies).mapM fun (id, reply) =>
          client.documentOf (client.config.documentKey schema.name id) reply) = .ok found := by
  change (∃ after, client.run (.sendBatch (Write.readCommands client.config schema ids) _) session =
    some (.ok found, after)) ↔ _
  rcases hpipeline : pipeline (Write.readCommands client.config schema ids) session with
    ⟨result, after⟩
  simp only [run, hpipeline]
  constructor
  · rintro ⟨last, hrun⟩
    cases result with
    | error error => cases hrun
    | ok replies => exact ⟨replies, rfl, (Prod.mk.inj (Option.some.inj hrun)).1⟩
  · rintro ⟨replies, rfl, hfound⟩
    refine ⟨after, ?_⟩
    change some ((ids.zip replies).mapM _, after) = _
    rw [hfound]

theorem findMany_eq_ok_iff {session : Session Store} {ids : List String}
    {found : List (Option Document)} :
    (∃ after, client.run (client.findMany schema ids) session = some (.ok found, after)) ↔
      List.Forall₂ (client.Finds schema session.transport) ids found := by
  have hreads : ∀ command ∈ Write.readCommands client.config schema ids,
      Text.upper command.name = "HGETALL" := by
    intro command hcommand
    obtain ⟨id, -, rfl⟩ := List.mem_map.mp hcommand
    exact client.readCommand_reads schema id
  -- An error that takes the place of a reply would not pass, so the answer is the reply itself.
  have hfinds : (fun id document => ∃ reply,
      (inBatch (Store.execute (Write.readCommand client.config schema id) session.transport).1 =
        .ok reply ∧ reply.Passes) ∧
      client.documentOf (client.config.documentKey schema.name id) reply = .ok document) =
      client.Finds schema session.transport := by
    funext id document
    refine propext (exists_congr fun reply => and_congr_left fun _ => ?_)
    exact and_congr_left fun hpasses => inBatch_eq_ok_iff hpasses.not_error
  rw [run_findMany_iff, ← hfinds, ← forall₂_between_iff]
  simp only [pipeline_store_iff, Store.oneByOne_reads_iff hreads, mapM_eq_ok_iff]
  simp only [Write.readCommands, List.forall₂_map_left_iff]

end Finds

end Client

/-- Documents are found in a batch exactly if each of them is found alone, and they are the same
documents in the order of the ids. -/
theorem findMany_iff_finds (client : Client) (schema : Schema) (ids : List String)
    (session : Session Store) (found : List (Option Document)) :
    (∃ after, client.run (client.findMany schema ids) session = some (.ok found, after)) ↔
      List.Forall₂
        (fun id document => ∃ after,
          client.run (client.find schema id) session = some (.ok document, after))
        ids found := by
  simp only [client.find_eq_ok_iff schema, client.findMany_eq_ok_iff schema]

end FullText
