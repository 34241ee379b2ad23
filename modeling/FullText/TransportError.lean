/-!
Errors on the way to the store. Only a command that may not have reached the store is worth sending
again.
-/

namespace FullText

/-- What went wrong with a command on its way. -/
inductive TransportError where
  /-- The store could not be reached, or the connection broke. -/
  | connection (message : String)
  /-- The store answered with an error. -/
  | server (message : String)
  | other (message : String)
deriving DecidableEq, Repr

namespace TransportError

def message : TransportError → String
  | .connection m | .server m | .other m => m

def text : TransportError → String
  | .connection m => "Connection error: " ++ m
  | .server m => m
  | .other m => "Transport error: " ++ m

def isRetryable : TransportError → Bool
  | .connection _ => true
  | _ => false

end TransportError

end FullText
