import FullText.Command
import FullText.Reply
import FullText.TransportError

/-!
Transports: ways to the store. A transport is a state that commands act on.
-/

namespace FullText

/-- A way to the store, with a state of type `σ`. -/
class Transport (σ : Type) where
  /-- Sends one command. -/
  execute : Command → σ → Except TransportError Reply × σ
  /-- Sends a batch of commands. -/
  pipeline : List Command → σ → Except TransportError (List Reply) × σ
  /-- The error text that the last failed command has left, if failures are told as a bare
  `false`. -/
  lastError : σ → Option String

namespace Transport

variable {σ : Type}

/-- Sends commands one after another. An error answer of the store takes the place of a reply; any
other error ends the batch. -/
def oneByOne (execute : Command → σ → Except TransportError Reply × σ) :
    List Command → σ → Except TransportError (List Reply) × σ
  | [], s => (.ok [], s)
  | command :: commands, s =>
    let continueWith (reply : Reply) (s : σ) : Except TransportError (List Reply) × σ :=
      let (replies, s) := oneByOne execute commands s
      (replies.map (reply :: ·), s)
    match execute command s with
    | (.ok reply, s) => continueWith reply s
    | (.error (.server message), s) => continueWith (.error message) s
    | (.error error, s) => (.error error, s)

end Transport

end FullText
