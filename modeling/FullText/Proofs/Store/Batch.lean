import FullText.Proofs.Store.History
import Mathlib.Data.List.Forall2

/-!
Batches of commands. A batch is the sequence of its commands: the store is left as it is when they are
carried out one after another, up to the first one that is not answered. That one ends the batch with
its error. A batch that is answered to the end has one reply to each command.
-/

namespace FullText

/-- How an answer of the store is told as one of the replies to a batch. There is no reply for an
error on the way to the store. -/
inductive ToldAs : Except TransportError Reply → Reply → Prop where
  | reply (reply : Reply) : ToldAs (.ok reply) reply
  | error (message : String) : ToldAs (.error (.server message)) (.error message)

/-- An error on the way to the store ends a batch. -/
inductive BreaksOff : Except TransportError Reply → TransportError → Prop where
  | connection (message : String) :
      BreaksOff (.error (.connection message)) (.connection message)
  | other (message : String) : BreaksOff (.error (.other message)) (.other message)

theorem told_or_breaksOff (answer : Except TransportError Reply) :
    (∃ reply, ToldAs answer reply) ∨ ∃ error, BreaksOff answer error := by
  cases answer with
  | ok reply => exact .inl ⟨reply, .reply reply⟩
  | error error =>
      cases error with
      | connection message => exact .inr ⟨_, .connection message⟩
      | server message => exact .inl ⟨_, .error message⟩
      | other message => exact .inr ⟨_, .other message⟩

namespace Transport

variable {σ : Type} {execute : Command → σ → Except TransportError Reply × σ} {command : Command}
  {s : σ}

theorem oneByOne_cons_of_told {reply : Reply} (htold : ToldAs (execute command s).1 reply)
    (commands : List Command) :
    oneByOne execute (command :: commands) s =
      ((oneByOne execute commands (execute command s).2).1.map (reply :: ·),
        (oneByOne execute commands (execute command s).2).2) := by
  rcases hexecute : execute command s with ⟨answer, left⟩
  rw [hexecute] at htold
  simp only [oneByOne, hexecute]
  cases htold with
  | reply | error => rfl

theorem oneByOne_cons_of_breaksOff {error : TransportError}
    (hbreaks : BreaksOff (execute command s).1 error) (commands : List Command) :
    oneByOne execute (command :: commands) s = (.error error, (execute command s).2) := by
  rcases hexecute : execute command s with ⟨answer, left⟩
  rw [hexecute] at hbreaks
  simp only [oneByOne, hexecute]
  cases hbreaks with
  | connection | other => rfl

end Transport

namespace Store

/-- How a batch ends on a store, when its commands are carried out one after another. -/
inductive BatchEnds (commands : List Command) (store : Store) :
    Except TransportError (List Reply) × Store → Prop where
  /-- The first command that is not answered ends it, and none of the later ones is sent. -/
  | broken {before after : List Command} {command : Command} {error : TransportError}
      (hcommands : commands = before ++ command :: after)
      (hbefore : ∀ exchange ∈ (converse before store).1, ∃ reply, ToldAs exchange.2 reply)
      (hbreaks : BreaksOff (execute command (converse before store).2).1 error) :
      BatchEnds commands store (.error error, (converse (before ++ [command]) store).2)
  /-- Every command is answered, and the replies are told in order. -/
  | answered {replies : List Reply}
      (hreplies : List.Forall₂ (fun exchange reply => ToldAs exchange.2 reply)
        (converse commands store).1 replies) :
      BatchEnds commands store (.ok replies, (converse commands store).2)

section Batches

variable {commands before : List Command} {command : Command} {store : Store}

theorem oneByOne_broken {error : TransportError} (after : List Command)
    (hbefore : ∀ exchange ∈ (converse before store).1, ∃ reply, ToldAs exchange.2 reply)
    (hbreaks : BreaksOff (execute command (converse before store).2).1 error) :
    Transport.oneByOne execute (before ++ command :: after) store =
      (.error error, (converse (before ++ [command]) store).2) := by
  induction before generalizing store with
  | nil => exact Transport.oneByOne_cons_of_breaksOff hbreaks after
  | cons first before ih =>
      rw [converse_cons] at hbefore hbreaks
      obtain ⟨⟨reply, htold⟩, hbefore⟩ := List.forall_mem_cons.mp hbefore
      rw [List.cons_append, List.cons_append, Transport.oneByOne_cons_of_told htold,
        ih hbefore hbreaks, converse_cons]
      rfl

theorem oneByOne_answered {replies : List Reply}
    (hreplies : List.Forall₂ (fun exchange reply => ToldAs exchange.2 reply)
      (converse commands store).1 replies) :
    Transport.oneByOne execute commands store = (.ok replies, (converse commands store).2) := by
  induction commands generalizing store replies with
  | nil =>
      cases hreplies
      rfl
  | cons command commands ih =>
      rw [converse_cons] at hreplies ⊢
      cases hreplies with
      | cons htold hlater =>
          rw [Transport.oneByOne_cons_of_told htold, ih hlater]
          rfl

/-- A batch is answered to the end, or there is a first command that is not answered. -/
theorem answered_or_broken (commands : List Command) (store : Store) :
    (∃ replies, List.Forall₂ (fun exchange reply => ToldAs exchange.2 reply)
      (converse commands store).1 replies) ∨
    ∃ before command after error, commands = before ++ command :: after ∧
      (∀ exchange ∈ (converse before store).1, ∃ reply, ToldAs exchange.2 reply) ∧
      BreaksOff (execute command (converse before store).2).1 error := by
  induction commands generalizing store with
  | nil => exact .inl ⟨[], .nil⟩
  | cons command commands ih =>
      rcases told_or_breaksOff (execute command store).1 with ⟨reply, htold⟩ | ⟨error, hbreaks⟩
      · rcases ih (execute command store).2 with
          ⟨replies, hreplies⟩ | ⟨before, broken, after, error, rfl, hbefore, hbreaks⟩
        · exact .inl ⟨reply :: replies, .cons htold hreplies⟩
        · refine .inr ⟨command :: before, broken, after, error, rfl, ?_, hbreaks⟩
          exact List.forall_mem_cons.mpr ⟨⟨reply, htold⟩, hbefore⟩
      · exact .inr ⟨[], command, commands, error, rfl, nofun, hbreaks⟩

theorem oneByOne_batchEnds (commands : List Command) (store : Store) :
    BatchEnds commands store (Transport.oneByOne execute commands store) := by
  rcases answered_or_broken commands store with
    ⟨replies, hreplies⟩ | ⟨before, command, after, error, rfl, hbefore, hbreaks⟩
  · rw [oneByOne_answered hreplies]
    exact .answered hreplies
  · rw [oneByOne_broken after hbefore hbreaks]
    exact .broken rfl hbefore hbreaks

end Batches

/-- A batch on a store in any state, whatever answers are prepared, ends as the sequence of its
commands does. -/
theorem pipeline_eq_iff (commands : List Command) (store : Store)
    (result : Except TransportError (List Reply) × Store) :
    Transport.pipeline commands store = result ↔ BatchEnds commands store result := by
  constructor
  · rintro rfl
    exact oneByOne_batchEnds commands store
  · intro hends
    cases hends with
    | broken hcommands hbefore hbreaks =>
        subst hcommands
        exact oneByOne_broken _ hbefore hbreaks
    | answered hreplies => exact oneByOne_answered hreplies

/-- A deletion is not answered, and the hash that was to be written after it is not. -/
example :
    (Transport.pipeline [.ofTexts "HSET" ["k", "a", "1"], .ofTexts "HSET" ["k"],
        .ofTexts "DEL" ["k"], .ofTexts "HSET" ["l", "b", "2"]]
      (Store.prepare {} "del" (.error (.connection "reset by peer")))).2.hashes.entries.map (·.1) =
      ["k"] := by
  cbv

end Store

end FullText
