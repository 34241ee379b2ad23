import FullText.Transport

/-!
A transport that plays back prepared outcomes, one for each command.
-/

namespace FullText

/-- The prepared outcome of a command. -/
inductive Played where
  | reply (reply : Reply)
  | error (error : TransportError)
  /-- A bare `false`, with the error text that it leaves behind. -/
  | silent (lastError : Option String)

/-- The outcomes that are still to come, and the commands received so far. -/
structure Playback where
  outcomes : List Played
  /-- The outcomes of batches; without them a batch is sent command by command. -/
  batches : Option (List (Except TransportError (List Reply))) := none
  sent : List Command := []
  lastError : Option String := none

namespace Playback

def exhausted : TransportError :=
  .other "script exhausted"

def execute (command : Command) (playback : Playback) : Except TransportError Reply × Playback :=
  let playback := { playback with sent := playback.sent ++ [command] }
  match playback.outcomes with
  | [] => (.error exhausted, playback)
  | played :: outcomes =>
    let playback := { playback with outcomes }
    match played with
    | .reply reply => (.ok reply, playback)
    | .error error => (.error error, playback)
    | .silent lastError => (.ok (.bool false), { playback with lastError })

def pipeline (commands : List Command) (playback : Playback) :
    Except TransportError (List Reply) × Playback :=
  match playback.batches with
  | none => Transport.oneByOne execute commands playback
  | some batches =>
    let playback := { playback with sent := playback.sent ++ commands }
    match batches with
    | [] => (.error exhausted, playback)
    | outcome :: batches => (outcome, { playback with batches := some batches })

instance : Transport Playback where
  execute := execute
  pipeline := pipeline
  lastError playback := if playback.batches.isSome then none else playback.lastError

end Playback

end FullText
