import FullText.Proofs.Retry
import FullText.Proofs.Store.Batch

/-!
Conversations with a store in any state, whatever answers are prepared. A store writes down each
command that it receives; what it answers and what it keeps depend on its hashes and its prepared
answers, and not on what it has received before. Attempts at a command and batches of commands are
conversations.
-/

namespace FullText

namespace Store

/-! ### Single commands -/

/-- An operation that works on the hashes and touches nothing else. -/
def OnHashes (operation : Store → Except TransportError Reply × Store) : Prop :=
  ∀ store, operation store =
    ((operation { hashes := store.hashes }).1,
      { store with hashes := (operation { hashes := store.hashes }).2.hashes })

theorem hset_onHashes (args : List String) : OnHashes (hset args) := by
  intro store
  cases args with
  | nil => rfl
  | cons key pairs =>
      simp only [hset]
      split
      case isTrue => rfl
      case isFalse => rfl

theorem hgetall_onHashes (args : List String) : OnHashes (hgetall args) := by
  intro store
  match args with
  | [] | [_] | _ :: _ :: _ => rfl

theorem del_onHashes (args : List String) : OnHashes (del args) := by
  intro store
  simp only [del]
  split
  case isTrue => rfl
  case isFalse => rfl

theorem hincrby_onHashes (args : List String) : OnHashes (hincrby args) := by
  intro store
  match args with
  | [key, field, amount] =>
      simp only [hincrby]
      cases Decimal.readInt64? amount with
      | none => rfl
      | some amount =>
          simp only [hash?]
          cases incremented ((store.hashes.get? key).getD ∅) field amount with
          | error error => rfl
          | ok sum => rfl
  | [] | [_] | [_, _] | _ :: _ :: _ :: _ :: _ => rfl

theorem perform_onHashes (command : Command) : OnHashes (perform command) := by
  intro store
  unfold perform
  dsimp only
  split
  case h_1 => exact hset_onHashes _ store
  case h_2 => exact hgetall_onHashes _ store
  case h_3 => exact del_onHashes _ store
  case h_4 => exact hincrby_onHashes _ store
  case h_5 => rfl

section Execute

variable (command : Command) (store : Store)

theorem sent_execute : (execute command store).2.sent = store.sent ++ [command] := by
  unfold execute
  dsimp only
  split
  case h_4 => rw [perform_onHashes]
  all_goals rfl

theorem prepared_execute : (execute command store).2.prepared = store.prepared := by
  unfold execute
  dsimp only
  split
  case h_4 => rw [perform_onHashes]
  all_goals rfl

end Execute

/-- Stores that differ in their past only. -/
structure Alike (a b : Store) : Prop where
  hashes_eq : a.hashes = b.hashes
  prepared_eq : a.prepared = b.prepared

theorem Alike.trans {a b c : Store} (hab : a.Alike b) (hbc : b.Alike c) : a.Alike c :=
  ⟨hab.hashes_eq.trans hbc.hashes_eq, hab.prepared_eq.trans hbc.prepared_eq⟩

/-- A command has the same answer from stores that are alike, and leaves them alike. -/
theorem Alike.execute {a b : Store} (halike : a.Alike b) (command : Command) :
    (execute command a).1 = (execute command b).1 ∧
      (execute command a).2.Alike (execute command b).2 := by
  obtain ⟨hhashes, hprepared⟩ := halike
  have hkept : (Store.execute command a).2.prepared = (Store.execute command b).2.prepared := by
    rw [prepared_execute, prepared_execute, hprepared]
  suffices h : (Store.execute command a).1 = (Store.execute command b).1 ∧
      (Store.execute command a).2.hashes = (Store.execute command b).2.hashes from
    ⟨h.1, h.2, hkept⟩
  unfold Store.execute
  simp only [hprepared]
  cases b.prepared.get? (Text.upper command.name) with
  | none =>
      simp only
      rw [perform_onHashes, perform_onHashes command { b with sent := _ }]
      simp only [hhashes]
      exact ⟨trivial, trivial⟩
  | some answer => cases answer <;> exact ⟨rfl, hhashes⟩

/-! ### Conversations -/

theorem sent_converse (commands : List Command) (store : Store) :
    (converse commands store).2.sent = store.sent ++ commands := by
  induction commands generalizing store with
  | nil => rw [converse, List.append_nil]
  | cons command commands ih =>
      rw [converse_cons, ih, sent_execute, List.append_assoc, List.singleton_append]

theorem converse_append (first second : List Command) (store : Store) :
    converse (first ++ second) store =
      ((converse first store).1 ++ (converse second (converse first store).2).1,
        (converse second (converse first store).2).2) := by
  induction first generalizing store with
  | nil => rfl
  | cons command first ih =>
      rw [List.cons_append, converse_cons, ih]
      rfl

/-- A batch is a conversation, which may have been cut short. -/
theorem oneByOne_converse (commands : List Command) (store : Store) :
    ∃ received, received <+: commands ∧ (received = [] ↔ commands = []) ∧
      (Transport.oneByOne execute commands store).2 = (converse received store).2 := by
  have hends := oneByOne_batchEnds commands store
  generalize Transport.oneByOne execute commands store = result at hends
  cases hends with
  | @broken before after command error hcommands =>
      refine ⟨before ++ [command], ⟨after, ?_⟩, ?_, rfl⟩
      · rw [hcommands, List.append_assoc, List.singleton_append]
      · simp [hcommands]
  | answered => exact ⟨commands, List.prefix_rfl, Iff.rfl, rfl⟩

theorem converse_replicate (times : Nat) (command : Command) (store : Store) :
    (converse (List.replicate times command) store).2 =
      RetryPolicy.runs (execute command) times store := by
  induction times generalizing store with
  | zero => rfl
  | succ times ih => rw [List.replicate_succ, converse_cons, ih, RetryPolicy.runs_succ]

/-- Attempts at a command are a conversation in which it is repeated. -/
theorem attempt_converse {policy : RetryPolicy} {retryable : TransportError → Bool}
    {command : Command} {store : Store} {attempts : Attempts Store TransportError Reply}
    (hattempt : policy.attempt retryable (execute command) store = some attempts) :
    ∃ repeats, attempts.state = (converse (List.replicate (repeats + 1) command) store).2 := by
  obtain ⟨used, hcourse⟩ := RetryPolicy.attemptsFrom_course hattempt
  exact ⟨used, by rw [converse_replicate, RetryPolicy.runs_succ', hcourse.operation_eq]⟩

end Store

end FullText
