import FullText.Proofs.Client.Sending

/-!
The round trips that a client makes. A dialogue is carried over the transport in round trips, each of
which takes one command, however often that is tried, or one batch. Between them nothing happens to
the transport, and nothing but the number of documents that a search has brought is measured.
-/

namespace FullText

/-- A round trip with its result. A batch without commands does not make one. -/
inductive RoundTrip where
  | single (command : Command) (result : Except Error Reply)
  | batch (commands : List Command) (result : Except Error (List Reply))

namespace RoundTrip

def commands : RoundTrip → List Command
  | .single command _ => [command]
  | .batch commands _ => commands

/-- The name under which a round trip is measured. -/
def label : RoundTrip → String
  | .single command _ => command.name
  | .batch _ _ => Client.batchName

/-- The error in which a round trip has ended. -/
def error? : RoundTrip → Option Error
  | .single _ (.error error) | .batch _ (.error error) => some error
  | .single _ (.ok _) | .batch _ (.ok _) => none

end RoundTrip

namespace Client

variable {σ α : Type} [Transport σ]

/-- The round trips in the course of a dialogue. -/
def roundTrips (client : Client) : Dialogue α → Session σ → List RoundTrip
  | .done _, _ => []
  | .send command next, session =>
    match client.execute command session with
    | some (result, after) => .single command result :: client.roundTrips (next result) after
    | none => []
  | .sendBatch commands next, session =>
    let (results, after) := pipeline commands session
    let later := client.roundTrips (next results) after
    if commands.isEmpty then later else .batch commands results :: later
  | .measure metric next, session =>
    client.roundTrips next { session with metrics := session.metrics ++ [metric] }

/-- Makes calls one after another, whatever becomes of each. -/
def callAll (client : Client) : List (Σ α, Call α) → Session σ → Option (Session σ)
  | [], session => some session
  | call :: calls, session =>
    (client.run (call.2.dialogue client) session).bind fun (_, after) => client.callAll calls after

/-- The round trips in the course of calls that are made one after another. -/
def roundTripsOfAll (client : Client) : List (Σ α, Call α) → Session σ → List RoundTrip
  | [], _ => []
  | call :: calls, session =>
    let later := match client.run (call.2.dialogue client) session with
      | some (_, after) => client.roundTripsOfAll calls after
      | none => []
    client.roundTrips (call.2.dialogue client) session ++ later

/-! ### From session to session -/

/-- One round trip leads from one session to another. -/
inductive Makes (client : Client) : Session σ → RoundTrip → Session σ → Prop where
  | single {command : Command} {result : Except Error Reply} {before after : Session σ}
      (hexecute : client.execute command before = some (result, after)) :
      client.Makes before (.single command result) after
  | batch {commands : List Command} {results : Except Error (List Reply)}
      {before after : Session σ} (hne : commands ≠ [])
      (hpipeline : pipeline commands before = (results, after)) :
      client.Makes before (.batch commands results) after

/-- Round trips lead from one session to another, and on the way documents may be counted. -/
inductive MakesAll (client : Client) : Session σ → List RoundTrip → Session σ → Prop where
  | none (session : Session σ) : client.MakesAll session [] session
  | trip {before between after : Session σ} {trip : RoundTrip} {trips : List RoundTrip}
      (hfirst : client.Makes before trip between) (hlater : client.MakesAll between trips after) :
      client.MakesAll before (trip :: trips) after
  | counted {before after : Session σ} {trips : List RoundTrip} (documents : Nat)
      (hlater : client.MakesAll
        { before with metrics := before.metrics ++ [.searchResults documents] } trips after) :
      client.MakesAll before trips after

theorem MakesAll.append {client : Client} {before between after : Session σ}
    {first second : List RoundTrip} (hfirst : client.MakesAll before first between)
    (hsecond : client.MakesAll between second after) :
    client.MakesAll before (first ++ second) after := by
  induction hfirst with
  | none => exact hsecond
  | trip htrip _ ih => exact .trip htrip (ih hsecond)
  | counted documents _ ih => exact .counted documents (ih hsecond)

end Client

/-! ### Dialogues -/

namespace Dialogue

variable {α β : Type}

/-- A dialogue that measures nothing but the number of documents found, and that only after it has
sent something; `sent` tells whether it has. -/
def CountsFound : Dialogue α → (sent : Bool) → Prop
  | .done _, _ => True
  | .send _ next, _ => ∀ answer, (next answer).CountsFound true
  | .sendBatch commands next, sent =>
    ∀ answers, (next answers).CountsFound (sent || !commands.isEmpty)
  | .measure metric next, sent =>
    sent = true ∧ (∃ documents, metric = .searchResults documents) ∧ next.CountsFound sent

section Run

variable {σ : Type} [Transport σ] {client : Client} {dialogue : Dialogue α} {sent : Bool}
  {session after : Session σ} {result : Except Error α}

/-- Carrying a dialogue out is making its round trips. -/
theorem CountsFound.makesAll (hcounts : dialogue.CountsFound sent)
    (hrun : client.run dialogue session = some (result, after)) :
    client.MakesAll session (client.roundTrips dialogue session) after := by
  induction dialogue generalizing sent session with
  | done result =>
      cases hrun
      exact .none _
  | send command next ih =>
      rw [Client.run] at hrun
      obtain ⟨⟨answer, between⟩, hexecute, hlater⟩ := Option.bind_eq_some_iff.mp hrun
      rw [Client.roundTrips, hexecute]
      exact .trip (.single hexecute) (ih answer (hcounts answer) hlater)
  | sendBatch commands next ih =>
      rcases hpipeline : Client.pipeline commands session with ⟨answers, between⟩
      rw [Client.run, hpipeline] at hrun
      have hlater := ih answers (hcounts answers) hrun
      rw [Client.roundTrips, hpipeline]
      cases commands with
      | nil =>
          cases hpipeline
          exact hlater
      | cons command commands => exact .trip (.batch (List.cons_ne_nil _ _) hpipeline) hlater
  | measure metric next ih =>
      obtain ⟨-, ⟨documents, rfl⟩, hcounts⟩ := hcounts
      exact .counted documents (ih hcounts hrun)

/-- A dialogue without round trips changes nothing. -/
theorem CountsFound.eq_of_no_trip (hcounts : dialogue.CountsFound false)
    (hrun : client.run dialogue session = some (result, after))
    (hnone : client.roundTrips dialogue session = []) : after = session := by
  induction dialogue generalizing session with
  | done result =>
      cases hrun
      rfl
  | send command next ih =>
      rw [Client.run] at hrun
      obtain ⟨⟨answer, between⟩, hexecute, -⟩ := Option.bind_eq_some_iff.mp hrun
      rw [Client.roundTrips, hexecute] at hnone
      cases hnone
  | sendBatch commands next ih =>
      cases commands with
      | nil => exact ih _ (hcounts (.ok [])) hrun hnone
      | cons command commands => cases hnone
  | measure metric next ih => exact absurd hcounts.1 Bool.false_ne_true

end Run

section Rules

variable {sent : Bool} {f : α → Dialogue β}

theorem CountsFound.ofExcept {x : Except Error α} (hf : ∀ a, (f a).CountsFound sent) :
    (ofExcept x >>= f).CountsFound sent := by
  cases x with
  | error error => exact trivial
  | ok a => exact hf a

theorem CountsFound.execute {f : Reply → Dialogue β} (command : Command)
    (hf : ∀ reply, (f reply).CountsFound true) :
    (execute command >>= f).CountsFound sent := by
  intro answer
  cases answer with
  | error error => exact trivial
  | ok reply => exact hf reply

theorem CountsFound.pipeline {f : List Reply → Dialogue β} (commands : List Command)
    (hf : ∀ replies, (f replies).CountsFound (sent || !commands.isEmpty)) :
    (pipeline commands >>= f).CountsFound sent := by
  intro answers
  cases answers with
  | error error => exact trivial
  | ok replies => exact hf replies

end Rules

end Dialogue

namespace Call

open Dialogue (CountsFound)

variable {α : Type}

theorem sendEntries_countsFound (client : Client) (entries : Except Error (List BulkEntry)) :
    (client.sendEntries entries).CountsFound false :=
  .ofExcept fun _ => .pipeline _ fun _ => trivial

/-- A call measures the documents that it has found, and nothing else of its own. -/
theorem countsFound (client : Client) (call : Call α) :
    (call.dialogue client).CountsFound false := by
  cases call with
  | createIndex schema => exact .ofExcept fun command => .execute command fun _ => trivial
  | dropIndex schema deleteDocuments => exact .execute _ fun _ => trivial
  | indexExists schema =>
      intro answer
      dsimp only
      split
      case h_1 => exact trivial
      case h_2 => split <;> exact trivial
  | tagValues schema column =>
      refine .ofExcept fun command => .execute command fun reply => ?_
      cases reply <;> exact trivial
  | search schema request =>
      refine .ofExcept fun command => .execute command fun reply => .ofExcept fun results => ?_
      exact ⟨rfl, ⟨_, rfl⟩, trivial⟩
  | count schema request => exact .ofExcept fun command => .execute command fun _ => trivial
  | find schema id => exact .execute _ fun _ => trivial
  | findMany schema ids => exact .pipeline _ fun _ => trivial
  | insert rows => exact .ofExcept fun commands => .pipeline commands fun _ => trivial
  | update row => exact .ofExcept fun command => .execute command fun _ => trivial
  | upsert schema rows scripts => exact sendEntries_countsFound client _
  | bulk schema operation rows scripts options => exact sendEntries_countsFound client _
  | deleteByQuery schema request =>
      refine .ofExcept fun command => .execute command fun reply => .ofExcept fun results => ?_
      unfold Client.deletePage
      split
      case isTrue => exact trivial
      case isFalse => exact .execute _ fun _ => trivial
  | increment key field amount =>
      refine .execute _ fun reply => ?_
      split <;> exact trivial
  | runScript script => exact fun _ => trivial
  | execute command => exact fun _ => trivial
  | pipeline commands => exact fun _ => trivial

end Call

namespace Client

/-- Calls that are made one after another make their round trips one after another. -/
theorem callAll_makesAll {σ : Type} [Transport σ] {client : Client} {calls : List (Σ α, Call α)}
    {session after : Session σ} (hcalls : client.callAll calls session = some after) :
    client.MakesAll session (client.roundTripsOfAll calls session) after := by
  induction calls generalizing session with
  | nil =>
      cases hcalls
      exact .none _
  | cons call calls ih =>
      obtain ⟨⟨result, between⟩, hrun, hlater⟩ := Option.bind_eq_some_iff.mp hcalls
      have hfirst := (call.2.countsFound client).makesAll hrun
      rw [roundTripsOfAll, hrun]
      exact hfirst.append (ih hlater)

/-! ### What the store receives -/

/-- A round trip is a conversation with the store, in which each of its commands may come up several
times or not at all. -/
theorem Makes.converse {client : Client} {before after : Session Store} {trip : RoundTrip}
    (hmakes : client.Makes before trip after) : ∃ received, received ≠ [] ∧
      received ⊆ trip.commands ∧
      after.transport = (Store.converse received before.transport).2 := by
  cases hmakes with
  | single hexecute =>
      obtain ⟨attempts, hattempts, hresult⟩ := Option.map_eq_some_iff.mp hexecute
      obtain ⟨-, rfl⟩ := Prod.mk.inj hresult
      obtain ⟨repeats, hstate⟩ := Store.attempt_converse hattempts
      exact ⟨List.replicate (repeats + 1) _, List.cons_ne_nil _ _,
        List.replicate_subset_singleton _ _, hstate⟩
  | @batch commands _ _ _ hne hpipeline =>
      obtain ⟨received, hprefix, hempty, hstate⟩ :=
        Store.oneByOne_converse commands before.transport
      refine ⟨received, mt hempty.mp hne, hprefix.subset, ?_⟩
      rw [pipeline, if_neg (mt List.isEmpty_iff.mp hne)] at hpipeline
      obtain ⟨-, rfl⟩ := Prod.mk.inj hpipeline
      exact hstate

theorem MakesAll.converse {client : Client} {before after : Session Store}
    {trips : List RoundTrip} (hmakes : client.MakesAll before trips after) :
    ∃ received, (received = [] → trips = []) ∧ received ⊆ trips.flatMap RoundTrip.commands ∧
      after.transport = (Store.converse received before.transport).2 := by
  induction hmakes with
  | none session => exact ⟨[], fun _ => rfl, List.nil_subset _, rfl⟩
  | trip hfirst _ ih =>
      obtain ⟨first, hne, hcommands, hbetween⟩ := hfirst.converse
      obtain ⟨second, -, hlater, hafter⟩ := ih
      refine ⟨first ++ second, fun hnone => ?_, ?_, ?_⟩
      · exact absurd (List.append_eq_nil_iff.mp hnone).1 hne
      · exact List.append_subset.mpr ⟨List.subset_append_of_subset_left _ hcommands,
          List.subset_append_of_subset_right _ hlater⟩
      · rw [hafter, hbetween, Store.converse_append]
  | counted documents _ ih => exact ih

end Client

end FullText
