import FullText.Proofs.Client.Answers
import FullText.Proofs.Client.RoundTrips

/-!
The course of a dialogue. Answers come in it from the transport, one for each command whose attempts
have an end, and one for each reply to a batch. A command with which a dialogue begins stays without
an answer, is answered by what ends the dialogue in an error, or has a reply from which the dialogue
goes on.
-/

namespace FullText

namespace Client

variable {σ α : Type} [Transport σ]

/-! ### Answers -/

/-- The answer to the last attempt at a command. There is none if the attempts have no end. -/
def answersTo (client : Client) (command : Command) (session : Session σ) :
    List (Except TransportError Reply) :=
  ((client.retry.attempt TransportError.isRetryable (Transport.execute command)
    session.transport).map Attempts.outcome).toList

/-- The answers to a batch: the replies, or the error at which it breaks off. -/
def answersToBatch (commands : List Command) (session : Session σ) :
    List (Except TransportError Reply) :=
  if commands.isEmpty then
    []
  else
    match (Transport.pipeline commands session.transport).1 with
    | .ok replies => replies.map .ok
    | .error error => [.error error]

/-- The answers that come in the course of a dialogue. -/
def answers (client : Client) : Dialogue α → Session σ → List (Except TransportError Reply)
  | .done _, _ => []
  | .send command next, session =>
    let later := match client.execute command session with
      | some (result, after) => client.answers (next result) after
      | none => []
    client.answersTo command session ++ later
  | .sendBatch commands next, session =>
    let (results, after) := pipeline commands session
    answersToBatch commands session ++ client.answers (next results) after
  | .measure metric next, session =>
    client.answers next { session with metrics := session.metrics ++ [metric] }

/-- A command has no result and no answer, or a result that tells the answer. -/
theorem execute_cases (client : Client) (command : Command) (session : Session σ) :
    (client.execute command session = none ∧ client.answersTo command session = []) ∨
    ∃ answer result after, client.execute command session = some (result, after) ∧
      client.answersTo command session = [answer] ∧
      Tells (Transport.lastError after.transport) answer result := by
  cases hattempt : client.retry.attempt TransportError.isRetryable (Transport.execute command)
      session.transport with
  | none =>
      left
      exact ⟨by rw [execute, hattempt]; rfl, by rw [answersTo, hattempt]; rfl⟩
  | some attempts =>
      right
      obtain ⟨result, after, hexecute, hafter, htells⟩ := execute_tells hattempt
      refine ⟨attempts.outcome, result, after, hexecute, ?_, hafter ▸ htells⟩
      rw [answersTo, hattempt]
      rfl

/-! ### The first command -/

variable {client : Client} {command : Command} {f : Reply → Dialogue α} {session between : Session σ}

/-- A dialogue that begins with a command goes on from the result. -/
theorem execute_bind_eq {result : Except Error Reply}
    (hexecute : client.execute command session = some (result, between)) :
    client.run (.execute command >>= f) session = client.run (.ofExcept result >>= f) between ∧
    client.roundTrips (.execute command >>= f) session =
      .single command result :: client.roundTrips (.ofExcept result >>= f) between ∧
    client.answers (.execute command >>= f) session =
      client.answersTo command session ++ client.answers (.ofExcept result >>= f) between := by
  refine ⟨?_, ?_, ?_⟩
  · change client.run (.send command _) session = _
    rw [run, hexecute]
    rfl
  · change client.roundTrips (.send command _) session = _
    rw [roundTrips, hexecute]
    rfl
  · change client.answers (.send command _) session = _
    rw [answers, hexecute]
    rfl

variable (client command f session)

/-- The ways in which a dialogue goes that begins with a command. A bare failure is a reply unless a
known fault is behind it. -/
inductive Begins : Prop where
  | unanswered (hrun : client.run (.execute command >>= f) session = none)
      (hanswers : client.answers (.execute command >>= f) session = [])
  | failed {answer : Except TransportError Reply} {error : Error} {after : Session σ}
      (hrun : client.run (.execute command >>= f) session = some (.error error, after))
      (htrips : client.roundTrips (.execute command >>= f) session =
        [.single command (.error error)])
      (hanswers : client.answers (.execute command >>= f) session = [answer])
      (hknown : answer = .ok (.bool false) → ¬Unexplained (Transport.lastError after.transport))
  | replied {reply : Reply} {between : Session σ}
      (hrun : client.run (.execute command >>= f) session = client.run (f reply) between)
      (htrips : client.roundTrips (.execute command >>= f) session =
        .single command (.ok reply) :: client.roundTrips (f reply) between)
      (hanswers : client.answers (.execute command >>= f) session =
        .ok reply :: client.answers (f reply) between)
      (hunknown : reply = .bool false → Unexplained (Transport.lastError between.transport))

theorem begins : client.Begins command f session := by
  obtain ⟨hexecute, hnone⟩ | ⟨answer, result, between, hexecute, hone, htells⟩ :=
    client.execute_cases command session
  · refine .unanswered ?_ ?_
    · change client.run (.send command _) session = _
      rw [run, hexecute]
      rfl
    · change client.answers (.send command _) session = _
      rw [answers, hexecute, hnone]
      rfl
  · obtain ⟨hrun, htrips, hanswers⟩ := execute_bind_eq (f := f) hexecute
    rw [hone] at hanswers
    cases result with
    | error error =>
        refine .failed hrun htrips hanswers ?_
        rintro rfl hunknown
        cases htells.of_unknown hunknown
    | ok reply =>
        obtain ⟨rfl, hunknown⟩ := htells.eq_ok_iff.mp rfl
        refine .replied hrun htrips hanswers ?_
        rintro rfl
        exact hunknown

end Client

end FullText
