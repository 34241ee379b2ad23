import FullText.Proofs.Client.Deletion
import FullText.Proofs.Store.Targets
import FullText.Proofs.Write.Entries

/-!
What calls leave alone. The targets of the commands of a call are keys that the call names: in its
rows, as its own arguments, or, for a deletion by query, in the reply to its search. No hash at
another key is changed.
-/

namespace FullText

/-! ### Dialogues -/

namespace Dialogue

variable {α β : Type} {p : Command → Prop}

/-- A dialogue in which every command has a property, whatever the answers are. -/
def Sends (p : Command → Prop) : Dialogue α → Prop
  | .done _ => True
  | .send command next => p command ∧ ∀ answer, (next answer).Sends p
  | .sendBatch commands next =>
    (∀ command ∈ commands, p command) ∧ ∀ answers, (next answers).Sends p
  | .measure _ next => next.Sends p

theorem Sends.roundTrips {σ : Type} [Transport σ] {dialogue : Dialogue α}
    (hsends : dialogue.Sends p) (client : Client) (session : Session σ) :
    ∀ command ∈ (client.roundTrips dialogue session).flatMap RoundTrip.commands, p command := by
  induction dialogue generalizing session with
  | done result => exact List.forall_mem_nil p
  | send command next ih =>
      obtain ⟨hcommand, hnext⟩ := hsends
      rw [Client.roundTrips]
      split
      case h_1 answer between _ =>
        exact List.forall_mem_cons.mpr ⟨hcommand, ih answer (hnext answer) between⟩
      case h_2 => exact List.forall_mem_nil p
  | sendBatch commands next ih =>
      obtain ⟨hcommands, hnext⟩ := hsends
      rw [Client.roundTrips]
      rcases Client.pipeline commands session with ⟨answers, between⟩
      dsimp only
      split
      case isTrue => exact ih answers (hnext answers) between
      case isFalse =>
        exact List.forall_mem_append.mpr ⟨hcommands, ih answers (hnext answers) between⟩
  | measure metric next ih => exact ih hsends _

section Rules

variable {f : α → Dialogue β}

theorem Sends.ofExcept {x : Except Error α} (hf : ∀ a, x = .ok a → (f a).Sends p) :
    (ofExcept x >>= f).Sends p := by
  cases x with
  | error error => exact trivial
  | ok a => exact hf a rfl

theorem Sends.execute {f : Reply → Dialogue β} {command : Command} (hcommand : p command)
    (hf : ∀ reply, (f reply).Sends p) : (execute command >>= f).Sends p := by
  refine ⟨hcommand, fun answer => ?_⟩
  cases answer with
  | error error => exact trivial
  | ok reply => exact hf reply

theorem Sends.pipeline {f : List Reply → Dialogue β} {commands : List Command}
    (hcommands : ∀ command ∈ commands, p command) (hf : ∀ replies, (f replies).Sends p) :
    (pipeline commands >>= f).Sends p := by
  refine ⟨hcommands, fun answers => ?_⟩
  cases answers with
  | error error => exact trivial
  | ok replies => exact hf replies

end Rules

end Dialogue

/-! ### Rows -/

namespace Write

/-- The key that a row with an id is written to. -/
def documentKey? (config : Config) (schema : Schema) (row : Row) : Option String :=
  (Row.identifier? row "_id").map
    (config.documentKey ((Row.identifier? row "_index").getD schema.name))

theorem ComesFrom.documentKey? {schema : Schema} {operation : BulkOperation}
    {options : BulkOptions} {scripts : List Script} {row : Row} {entry : BulkEntry}
    (hfrom : ComesFrom schema operation options scripts row entry) (config : Config) :
    documentKey? config schema row = some (entry.key config.keySeparator) := by
  obtain ⟨id, script?, hid, -, rfl⟩ := hfrom
  rw [Write.documentKey?, hid]
  rfl

end Write

theorem BulkEntry.LowersTo.targets_subset {keySeparator nullSentinel : String} {entry : BulkEntry}
    {command : Command} (hlowers : entry.LowersTo keySeparator nullSentinel command) :
    command.targets ⊆ [entry.key keySeparator] := by
  cases hlowers with
  | deletion =>
      rw [Command.targets_del]
      exact List.Subset.refl _
  | document =>
      rw [Command.targets_hset]
      exact List.Subset.refl _
  | script =>
      rw [Command.targets_eq_nil (by decide)]
      exact List.nil_subset _

/-! ### Calls -/

theorem Schema.exists_args_of_tagValuesCommand {schema : Schema} {column : String}
    {command : Command} (hcommand : schema.tagValuesCommand column = .ok command) :
    ∃ args, command = { name := "FT.TAGVALS", args } := by
  obtain ⟨field, -, hcommand⟩ := bind_eq_ok_iff.mp hcommand
  dsimp only at hcommand
  split at hcommand
  case isTrue => cases hcommand
  case isFalse =>
    cases hcommand
    exact ⟨_, rfl⟩

namespace Call

open Dialogue (Sends)

variable {α : Type} {client : Client}

/-- A call names a key to write to: in one of its rows, as an argument, or in the reply to its
search. The calls that do not write to hashes name none. -/
def Names {σ : Type} [Transport σ] (client : Client) (session : Session σ) (key : String) :
    Call α → Prop
  | .insert rows => ∃ row ∈ rows, Row.identifier? row "_key" = some key
  | .update row => Row.identifier? row "_key" = some key
  | .upsert schema rows _ | .bulk schema _ rows _ _ =>
    ∃ row ∈ rows, Write.documentKey? client.config schema row = some key
  | .deleteByQuery schema request => ∃ search found later results,
      client.roundTrips (client.deleteByQuery schema request) session =
        .single search (.ok found) :: later ∧
      SearchResults.ofReply found client.config.nullSentinel = .ok results ∧ key ∈ results.keys
  | .increment target _ _ => target = key
  | .execute command => key ∈ command.targets
  | .pipeline commands => ∃ command ∈ commands, key ∈ command.targets
  | _ => False

theorem sendEntries_sends {entries : Except Error (List BulkEntry)} {named : String → Prop}
    (hentries : ∀ made, entries = .ok made →
      ∀ entry ∈ made, named (entry.key client.config.keySeparator)) :
    (client.sendEntries entries).Sends fun command => ∀ key ∈ command.targets, named key := by
  refine .ofExcept fun made hmade => .pipeline ?_ fun _ => trivial
  intro command hcommand key hkey
  obtain ⟨entry, hentry, hcommand⟩ := List.mem_flatMap.mp hcommand
  have hsubset := (BulkEntry.lowersTo_of_mem hcommand).targets_subset hkey
  exact List.mem_singleton.mp hsubset ▸ hentries made hmade entry hentry

theorem entries_named {schema : Schema} {operation : BulkOperation} {options : BulkOptions}
    {scripts : List Script} {rows : List Row} {made : List BulkEntry}
    (hmade : List.Forall₂ (Write.ComesFrom schema operation options scripts) rows made)
    (config : Config) : ∀ entry ∈ made, ∃ row ∈ rows,
      Write.documentKey? config schema row = some (entry.key config.keySeparator) := by
  intro entry hentry
  obtain ⟨row, hrow, hfrom⟩ := exists_mem_of_forall₂ hmade entry hentry
  exact ⟨row, hrow, hfrom.documentKey? config⟩

/-- Whether it is known what a call sends before anything is answered. -/
def isFixed : Call α → Bool
  | .deleteByQuery _ _ => false
  | _ => true

theorem fixed_named {σ : Type} [Transport σ] {call : Call α} (hfixed : call.isFixed = true)
    (client : Client) (session : Session σ) : (call.dialogue client).Sends fun command =>
      ∀ key ∈ command.targets, call.Names client session key := by
  cases call with
  | createIndex schema =>
      refine .ofExcept fun command hcommand => ?_
      obtain ⟨args, -, rfl⟩ := map_eq_ok_iff.mp hcommand
      exact .execute (Command.targets_of_read (by decide) args) fun _ => trivial
  | dropIndex schema deleteDocuments =>
      exact .execute (Command.targets_of_read (by decide) _) fun _ => trivial
  | indexExists schema =>
      refine ⟨Command.targets_of_read (by decide) _, fun answer => ?_⟩
      dsimp only
      split
      case h_1 => exact trivial
      case h_2 => split <;> exact trivial
  | tagValues schema column =>
      refine .ofExcept fun command hcommand => ?_
      obtain ⟨args, rfl⟩ := schema.exists_args_of_tagValuesCommand hcommand
      refine .execute (Command.targets_of_read (by decide) args) fun reply => ?_
      cases reply <;> exact trivial
  | search schema request =>
      refine .ofExcept fun command hcommand => ?_
      obtain ⟨args, rfl⟩ := Request.exists_args_of_selectCommand hcommand
      exact .execute (Command.targets_of_read (by decide) args) fun _ =>
        .ofExcept fun _ _ => trivial
  | count schema request =>
      refine .ofExcept fun command hcommand => ?_
      obtain ⟨query, -, rfl⟩ := map_eq_ok_iff.mp hcommand
      exact .execute (Command.targets_of_read (by decide) _) fun _ => trivial
  | find schema id => exact .execute (Command.targets_of_read (by decide) _) fun _ => trivial
  | findMany schema ids =>
      refine .pipeline (fun command hcommand => ?_) fun _ => trivial
      obtain ⟨id, -, rfl⟩ := List.mem_map.mp hcommand
      exact Command.targets_of_read (by decide) _
  | insert rows =>
      refine .ofExcept fun commands hinsert => .pipeline ?_ fun _ => trivial
      intro command hcommand key hkey
      obtain ⟨row, hrow, target, htarget, rfl⟩ :=
        exists_mem_of_forall₂ (Write.insert_storedAs hinsert) command hcommand
      rw [Command.targets_hset, List.mem_singleton] at hkey
      exact ⟨row, hrow, hkey ▸ htarget⟩
  | update row =>
      refine .ofExcept fun command hupdate => .execute ?_ fun _ => trivial
      intro key hkey
      obtain ⟨target, htarget, rfl⟩ := Write.store_eq_ok_iff.mp hupdate
      rw [Command.targets_hset, List.mem_singleton] at hkey
      exact hkey ▸ htarget
  | upsert schema rows scripts =>
      exact sendEntries_sends fun made hmade =>
        entries_named (Write.upsert_comeFrom hmade) client.config
  | bulk schema operation rows scripts options =>
      refine sendEntries_sends fun made hmade => ?_
      obtain ⟨operation, hmade⟩ := Write.bulk_comeFrom hmade
      exact entries_named hmade client.config
  | deleteByQuery schema request => cases hfixed
  | increment target field amount =>
      refine .execute (fun key hkey => ?_) fun reply => ?_
      · rw [Write.incrementCommand, Command.targets_hincrby, List.mem_singleton] at hkey
        exact hkey.symm
      · split <;> exact trivial
  | runScript script => exact ⟨Command.targets_of_read (by decide) _, fun _ => trivial⟩
  | execute command => exact ⟨fun _ hkey => hkey, fun _ => trivial⟩
  | pipeline commands =>
      exact ⟨fun command hcommand key hkey => ⟨command, hcommand, hkey⟩, fun _ => trivial⟩

theorem deletion_named {σ : Type} [Transport σ] {schema : Schema} {request : Request}
    {session : Session σ} {result : Except Error Nat}
    (hdeletes : client.Deletes schema request
      (client.roundTrips (client.deleteByQuery schema request) session) result) :
    ∀ command ∈ (client.roundTrips (client.deleteByQuery schema request) session).flatMap
        RoundTrip.commands,
      ∀ key ∈ command.targets, (Call.deleteByQuery schema request).Names client session key := by
  simp only [Names]
  generalize client.roundTrips (client.deleteByQuery schema request) session = trips at hdeletes ⊢
  cases hdeletes with
  | refused => exact nofun
  | unanswered error hcommand | unread hcommand | nothing hcommand =>
      obtain ⟨args, rfl⟩ := Request.exists_args_of_deletionCommand hcommand
      exact List.forall_mem_singleton.mpr (Command.targets_of_read (by decide) args)
  | page hcommand hread hsome answer =>
      obtain ⟨args, rfl⟩ := Request.exists_args_of_deletionCommand hcommand
      refine List.forall_mem_cons.mpr ⟨Command.targets_of_read (by decide) args, ?_⟩
      refine List.forall_mem_singleton.mpr fun key hkey => ?_
      rw [Write.deleteCommand, Command.targets_del] at hkey
      exact ⟨_, _, _, _, rfl, hread, hkey⟩

/-- The commands of a call target what the call names. -/
theorem targets_named {σ : Type} [Transport σ] (call : Call α) {session after : Session σ}
    {result : Except Error α}
    (hrun : client.run (call.dialogue client) session = some (result, after)) :
    ∀ command ∈ (client.roundTrips (call.dialogue client) session).flatMap RoundTrip.commands,
      ∀ key ∈ command.targets, call.Names client session key := by
  cases hfixed : call.isFixed with
  | true => exact (fixed_named hfixed client session).roundTrips client session
  | false =>
      cases call with
      | deleteByQuery schema request => exact deletion_named (Client.deletes_of_run hrun)
      | _ => cases hfixed

end Call

/-- A call changes no hash at a key that it does not name, whether it succeeds or fails, and
whatever is in the store and is prepared there. -/
theorem other_hashes_unchanged {α : Type} (client : Client) (call : Call α)
    (session after : Session Store) (result : Except Error α)
    (hrun : client.run (call.dialogue client) session = some (result, after)) {key : String}
    (hnot : ¬call.Names client session key) :
    after.transport.hash? key = session.transport.hash? key := by
  obtain ⟨received, -, hreceived, hafter⟩ := ((call.countsFound client).makesAll hrun).converse
  rw [hafter]
  refine Store.hash?_converse (fun command hcommand hkey => hnot ?_) session.transport
  exact call.targets_named hrun command (hreceived hcommand) key hkey

/-- A store with a person and a book, which a search finds. -/
def library : Session Store where
  transport := (Store.converse [.ofTexts "HSET" ["people::1", "name", "Ada"],
    .ofTexts "HSET" ["books::1", "title", "Emma"]] {}).2.prepare "FT.SEARCH"
      (.reply (.array [.int 1, .bulk "books::1"]))

/-- Two books, of which the second one has nothing to be written. -/
def newBooks : List Row :=
  [.ofList [("_key", .text "books::2"), ("title", .text "Persuasion")],
    .ofList [("_key", .text "books::3")]]

/-- An insertion that fails half way and a deletion leave the person alone. -/
theorem library_person_unchanged :
    (∃ error after, Client.run {} (Call.dialogue {} (.insert newBooks)) library =
        some (.error error, after) ∧ ¬(Call.insert newBooks).Names {} library "people::1" ∧
      after.transport.hash? "people::1" = library.transport.hash? "people::1") ∧
    ∃ after, Client.run {} (Call.dialogue {} (.deleteByQuery books allBooks)) library =
        some (.ok 1, after) ∧ ¬(Call.deleteByQuery books allBooks).Names {} library "people::1" ∧
      after.transport.hash? "people::1" = library.transport.hash? "people::1" := by
  constructor
  · have hrun : ∃ error after, Client.run {} (Call.dialogue {} (.insert newBooks)) library =
        some (.error error, after) := ⟨_, _, rfl⟩
    obtain ⟨error, after, hrun⟩ := hrun
    have hnot : ¬(Call.insert newBooks).Names {} library "people::1" := by
      unfold Call.Names
      decide
    exact ⟨error, after, hrun, hnot, other_hashes_unchanged {} _ library after _ hrun hnot⟩
  · have hrun : ∃ after, Client.run {} (Call.dialogue {} (.deleteByQuery books allBooks)) library =
        some (.ok 1, after) := ⟨_, rfl⟩
    obtain ⟨after, hrun⟩ := hrun
    have hnot : ¬(Call.deleteByQuery books allBooks).Names {} library "people::1" := by
      rintro ⟨search, found, later, results, htrips, hread, hkey⟩
      obtain ⟨⟨-, ⟨⟩⟩, -⟩ := List.cons.inj htrips
      cases hread
      revert hkey
      decide
    exact ⟨after, hrun, hnot, other_hashes_unchanged {} _ library after _ hrun hnot⟩

end FullText
