import FullText.Config
import FullText.Dialogue
import FullText.Outcome
import FullText.Retry
import FullText.Transport

/-!
The client carries dialogues over a transport. A command is tried again, after a delay, as long as it
may not have reached the store; its outcome is classified and measured. A batch is sent once.
-/

namespace FullText

/-- The settings of a client. Without a policy it does not try again. -/
structure Client where
  config : Config := {}
  retry : RetryPolicy := .none

/-- A transport in use, with what was measured and how many milliseconds were spent waiting. -/
structure Session (σ : Type) where
  transport : σ
  metrics : List Metric := []
  waited : Nat := 0

/-- How a round trip with a given result ended. -/
def Status.of {α : Type} : Except Error α → Status
  | .ok _ => .success
  | .error (.store _) => .fault
  | .error _ => .error

/-- What is measured at the end of a round trip. -/
def roundTripMetrics {α : Type} (command : String) (result : Except Error α) : List Metric :=
  let faults : List Metric := match result with
    | .error (.store fault) => [.fault fault.kind]
    | _ => []
  .roundTrip command (.of result) :: faults ++ [.timing command]

/-- The result of a command whose outcome is classified. A bare failure that reports no fault is an
answer like any other. -/
def resultOf (classified : Except Error Outcome) : Except Error Reply :=
  match classified with
  | .ok (.reply reply) => .ok reply
  | .ok (.failed _) => .ok (.bool false)
  | .ok (.thrown error) => .error (.transport error)
  | .error error => .error error

namespace Client

variable {σ α : Type} [Transport σ]

/-- What the last attempt at a command comes to. A bare `false` is a failure, which the transport may
have a message for. -/
def outcomeOf (attempts : Attempts σ TransportError Reply) : Outcome :=
  match attempts.outcome with
  | .ok (.bool false) => .failed (Transport.lastError attempts.state)
  | .ok reply => .reply reply
  | .error error => .thrown error

/-- Sends a command. There is no result if the delays of the policy cannot be computed. -/
def execute (client : Client) (command : Command) (session : Session σ) :
    Option (Except Error Reply × Session σ) :=
  (client.retry.attempt TransportError.isRetryable (Transport.execute command)
    session.transport).map fun attempts =>
      let result := resultOf (classify (outcomeOf attempts) command.argTexts)
      (result,
        { transport := attempts.state
          metrics := session.metrics ++ roundTripMetrics command.name result
          waited := session.waited + attempts.waited })

/-- The name under which batches are measured. -/
def batchName : String :=
  "PIPELINE"

def pipeline (commands : List Command) (session : Session σ) :
    Except Error (List Reply) × Session σ :=
  if commands.isEmpty then
    (.ok [], session)
  else
    let (answers, transport) := Transport.pipeline commands session.transport
    let result := match answers with
      | .ok replies => classifyBatch replies commands
      | .error error => (classify (.thrown error) []).map fun _ => []
    (result,
      { session with
        transport
        metrics := session.metrics ++
          .batchSize commands.length :: roundTripMetrics batchName result })

/-- Carries a dialogue over the transport of a session. -/
def run (client : Client) : Dialogue α → Session σ → Option (Except Error α × Session σ)
  | .done result, session => some (result, session)
  | .send command next, session =>
    (client.execute command session).bind fun (answer, session) => client.run (next answer) session
  | .sendBatch commands next, session =>
    let (answers, session) := pipeline commands session
    client.run (next answers) session
  | .measure metric next, session =>
    client.run next { session with metrics := session.metrics ++ [metric] }

end Client

end FullText
