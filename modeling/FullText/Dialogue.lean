import FullText.Command
import FullText.Error
import FullText.Metrics

/-!
Dialogues with the store: what a call says, depending on the answers so far. How a command gets to
the store, how often it is tried and what is measured on the way is no part of a dialogue.
-/

namespace FullText

/-- The rest of a call that ends in an `α` or an error. -/
inductive Dialogue (α : Type) where
  /-- The call is over. -/
  | done (result : Except Error α)
  /-- A command is sent, and the call goes on from its classified answer. -/
  | send (command : Command) (next : Except Error Reply → Dialogue α)
  /-- A batch of commands is sent. -/
  | sendBatch (commands : List Command) (next : Except Error (List Reply) → Dialogue α)
  /-- Something is measured. -/
  | measure (metric : Metric) (next : Dialogue α)

namespace Dialogue

variable {α β : Type}

/-- Goes on after a dialogue that ends well. -/
def bind (dialogue : Dialogue α) (f : α → Dialogue β) : Dialogue β :=
  match dialogue with
  | .done (.ok a) => f a
  | .done (.error error) => .done (.error error)
  | .send command next => .send command fun answer => (next answer).bind f
  | .sendBatch commands next => .sendBatch commands fun answers => (next answers).bind f
  | .measure metric next => .measure metric (next.bind f)

instance : Monad Dialogue where
  pure a := .done (.ok a)
  bind := bind

/-- A dialogue that is over with an error. -/
def fail (error : Error) : Dialogue α :=
  .done (.error error)

/-- A result that is known without the store. -/
def ofExcept (result : Except Error α) : Dialogue α :=
  .done result

def execute (command : Command) : Dialogue Reply :=
  .send command .done

def pipeline (commands : List Command) : Dialogue (List Reply) :=
  .sendBatch commands .done

def record (metric : Metric) : Dialogue Unit :=
  .measure metric (.done (.ok ()))

end Dialogue

end FullText
