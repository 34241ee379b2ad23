import FullText.Command
import FullText.Error

/-!
Outcomes of commands and their classification. A message that reports a known fault becomes that
fault however it arrived; of the others, what the transport threw stays an error, and anything else
is handed back.
-/

namespace FullText

/-- The ways in which a command can end. -/
inductive Outcome where
  | reply (answer : Reply)
  /-- A bare failure, with the error text that the transport has left. -/
  | failed (lastError : Option String)
  | thrown (error : TransportError)

namespace Outcome

/-- The message that an outcome carries. -/
def message? : Outcome → Option String
  | .reply answer => answer.message?
  | .failed lastError => lastError
  | .thrown error => some error.message

end Outcome

/-- The fault that a message reports. The first two arguments of the command, the index and the id,
go with the report of a document that is there already. -/
def Fault.ofMessage? (message : String) (context : List String) : Option Fault :=
  (FaultKind.ofMessage? message).map fun kind =>
    { kind, message, context := if kind = .duplicateDocument then some (context.take 2) else none }

/-- Classifies the outcome of a command; `context` holds the arguments of the command. -/
def classify (outcome : Outcome) (context : List String) : Except Error Outcome :=
  match outcome.message?.bind (Fault.ofMessage? · context) with
  | some fault => .error (.store fault)
  | none =>
    match outcome with
    | .thrown error => .error (.transport error)
    | other => .ok other

/-- The fault that one of the replies to a batch reports; `command` is the command at the same
place. -/
def replyFault? (reply : Reply) (command : Option Command) : Option Fault :=
  reply.message?.bind fun message =>
    Fault.ofMessage? message ((command.map Command.argTexts).getD [])

/-- The messages of the error replies of a batch. -/
def errorMessages (replies : List Reply) : List String :=
  replies.filterMap fun
    | .error message => some message
    | _ => none

/-- Classifies the replies to a batch of commands. The first fault is raised as it is; without one,
error replies make the batch a failure in part. -/
def classifyBatch (replies : List Reply) (commands : List Command) : Except Error (List Reply) :=
  match replies.zipIdx.findSome? fun (reply, i) => replyFault? reply commands[i]? with
  | some fault => .error (.store fault)
  | none =>
    match errorMessages replies with
    | [] => .ok replies
    | first :: rest => .error (.batchFailure (rest.length + 1) replies.length first)

end FullText
