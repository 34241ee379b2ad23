import FullText.Proofs.Client.Answers
import FullText.Proofs.Retry
import FullText.Transport.Playback

/-!
Commands that are sent again. A client attempts a command on the schedule of its policy: it sends the
command again only after a connection error, which is told if it comes to the last attempt in the
budget. An answer of the store, an error answer included, is never asked for twice.
-/

namespace FullText

namespace Client

variable {σ : Type} [Transport σ]

/-- A client has sent a command a number of times, and tells the outcome of the last. -/
structure Resends (client : Client) (command : Command) (before : Session σ) (count : Nat)
    (attempts : Attempts σ TransportError Reply) (result : Except Error Reply)
    (after : Session σ) : Prop where
  scheduled : client.retry.Scheduled TransportError.isRetryable (Transport.execute command)
    before.transport count attempts
  transport_eq : after.transport = attempts.state
  waited_eq : after.waited = before.waited + attempts.waited
  tells : Tells (Transport.lastError attempts.state) attempts.outcome result
  count_le : count ≤ client.retry.budget
  /-- Whenever the command was sent again, the store had not been reached. -/
  unreached : ∀ attempt, 0 < attempt → attempt < count → ∃ message,
    RetryPolicy.outcomeAt (Transport.execute command) before.transport attempt =
      .error (.connection message)
  /-- A transport that writes down what it is sent has written down the command as often. -/
  log_eq : ∀ log : σ → List Command,
    (∀ s, log (Transport.execute command s).2 = log s ++ [command]) →
      log after.transport = log before.transport ++ List.replicate count command

theorem retried_isRetryable_iff {outcome : Except TransportError Reply} :
    RetryPolicy.Retried TransportError.isRetryable outcome ↔
      ∃ message, outcome = .error (.connection message) := by
  constructor
  · rintro ⟨error, rfl, hretry⟩
    cases error with
    | connection message => exact ⟨message, rfl⟩
    | server message | other message => cases hretry
  · rintro ⟨message, rfl⟩
    exact ⟨_, rfl, rfl⟩

theorem execute_resends {client : Client} {command : Command} {session : Session σ}
    {attempts : Attempts σ TransportError Reply}
    (hattempt : client.retry.attempt TransportError.isRetryable (Transport.execute command)
      session.transport = some attempts) :
    ∃ count result after, client.execute command session = some (result, after) ∧
      client.Resends command session count attempts result after := by
  obtain ⟨count, hscheduled⟩ := RetryPolicy.attempt_scheduled hattempt
  refine ⟨count, _, _, by rw [execute, hattempt, Option.map_some], hscheduled, rfl, rfl,
    outcomeOf_tells attempts command.argTexts, hscheduled.count_le, ?_, ?_⟩
  · intro attempt hpos hlt
    exact retried_isRetryable_iff.mp (hscheduled.retried hpos hlt)
  · intro log hlog
    dsimp only
    rw [hscheduled.state_eq]
    exact RetryPolicy.log_runs hlog count session.transport

end Client

/-- Under a policy whose delays are spans of time, attempts at an operation are made until the first
success, the first error that is not worth a retry or the end of the budget, and the delays of the
policy lie between them. So a client sends a command again only after a connection error, and no
oftener than the budget allows. -/
theorem attempts_on_schedule (policy : RetryPolicy)
    (hdelays : ∀ retry, 0 < retry → retry < policy.budget → (policy.delay? retry).isSome) :
    (∀ {σ ε α : Type} (retryable : ε → Bool) (operation : σ → Except ε α × σ) (s : σ),
      ∃ count attempts, policy.attempt retryable operation s = some attempts ∧
        policy.Scheduled retryable operation s count attempts) ∧
    ∀ {σ : Type} [Transport σ] (client : Client) (command : Command) (session : Session σ),
      client.retry = policy →
      ∃ count attempts result after, client.execute command session = some (result, after) ∧
        client.Resends command session count attempts result after := by
  constructor
  · intro σ ε α retryable operation s
    obtain ⟨attempts, hattempts⟩ := Option.isSome_iff_exists.mp
      (RetryPolicy.attempt_isSome retryable operation s hdelays)
    obtain ⟨count, hscheduled⟩ := RetryPolicy.attempt_scheduled hattempts
    exact ⟨count, attempts, hattempts, hscheduled⟩
  · rintro σ _ client command session rfl
    obtain ⟨attempts, hattempts⟩ := Option.isSome_iff_exists.mp
      (RetryPolicy.attempt_isSome TransportError.isRetryable (Transport.execute command)
        session.transport hdelays)
    obtain ⟨count, result, after, hexecute, hresends⟩ := Client.execute_resends hattempts
    exact ⟨count, attempts, result, after, hexecute, hresends⟩

theorem Playback.sent_execute (command : Command) (playback : Playback) :
    (Playback.execute command playback).2.sent = playback.sent ++ [command] := by
  unfold Playback.execute
  dsimp only
  split
  case h_1 => rfl
  case h_2 => split <;> rfl

/-- A connection that breaks once, and a store that is not ready at first. -/
def unreadyStore : Session Playback where
  transport := { outcomes := [.error (.connection "reset by peer"), .error (.server "LOADING"),
    .reply (.status "PONG")] }

/-- The command is sent again after the connection error and not after the answer, although the
budget is not used up. -/
theorem unreadyStore_resends :
    let ping : Command := .ofTexts "PING" []
    (∀ retry, 0 < retry → retry < RetryPolicy.command.budget →
      (RetryPolicy.command.delay? retry).isSome) ∧
    ∃ attempts after, Client.execute { retry := .command } ping unreadyStore =
        some (.error (.transport (.server "LOADING")), after) ∧
      Client.Resends { retry := .command } ping unreadyStore 2 attempts
        (.error (.transport (.server "LOADING"))) after ∧
      after.transport.sent = [ping, ping] ∧ after.waited = 50 := by
  intro ping
  have hdelays : ∀ retry, 0 < retry → retry < RetryPolicy.command.budget →
      (RetryPolicy.command.delay? retry).isSome := by
    intro retry hpos hlt
    change retry < 3 at hlt
    obtain rfl | rfl : retry = 1 ∨ retry = 2 := by omega
    · rfl
    · decide +kernel
  refine ⟨hdelays, ?_⟩
  obtain ⟨-, hclients⟩ := attempts_on_schedule RetryPolicy.command hdelays
  obtain ⟨count, attempts, result, after, hexecute, hresends⟩ :=
    hclients { retry := .command } ping unreadyStore rfl
  have hrun : ∃ left, Client.execute { retry := .command } ping unreadyStore =
      some (.error (.transport (.server "LOADING")), left) ∧
      left.transport.sent = [ping, ping] ∧ left.waited = 50 := ⟨_, rfl, rfl, rfl⟩
  obtain ⟨left, hleft, hsent, hwaited⟩ := hrun
  obtain ⟨rfl, rfl⟩ := Prod.mk.inj (Option.some.inj (hexecute.symm.trans hleft))
  have hcount : [ping, ping] = List.replicate count ping := by
    rw [← hsent]
    exact hresends.log_eq Playback.sent (Playback.sent_execute ping)
  obtain rfl : 2 = count := by simpa using congrArg List.length hcount
  exact ⟨attempts, after, hleft, hresends, hsent, hwaited⟩

end FullText
