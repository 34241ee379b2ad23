import FullText.Decimal.Layout
import FullText.Decimal.Reading

/-!
Replies of the store, apart from how they travel.
-/

namespace FullText

/-- A reply of the store. -/
inductive Reply where
  | nil
  | ok
  | int (n : Int)
  | double (x : Float)
  | bool (b : Bool)
  | status (s : String)
  | bulk (s : String)
  | array (items : List Reply)
  /-- An error in the place of a value, as one of the replies to a batch. -/
  | error (message : String)

/-- The shape of a reply. -/
inductive ReplyKind where
  | nil
  | ok
  | integer
  | double
  | boolean
  | status
  | bulk
  | array
  | error
deriving DecidableEq, Repr

def ReplyKind.name : ReplyKind → String
  | .nil => "nil"
  | .ok => "ok"
  | .integer => "integer"
  | .double => "double"
  | .boolean => "boolean"
  | .status => "status"
  | .bulk => "bulk string"
  | .array => "array"
  | .error => "error"

namespace Reply

def kind : Reply → ReplyKind
  | .nil => .nil
  | .ok => .ok
  | .int _ => .integer
  | .double _ => .double
  | .bool _ => .boolean
  | .status _ => .status
  | .bulk _ => .bulk
  | .array _ => .array
  | .error _ => .error

/-- The message of a reply that carries one. -/
def message? : Reply → Option String
  | .status s | .bulk s | .error s => some s
  | .ok => some "OK"
  | _ => none

def toInt? : Reply → Option Int
  | .int n => some n
  | .status s | .bulk s => Decimal.readInt64? s
  | _ => none

def isError : Reply → Bool
  | .error _ => true
  | _ => false

/-- The text of a reply that can be a key, a name or a value of a document. -/
def text? : Reply → Option String
  | .status s | .bulk s => some s
  | .int n => some (toString n)
  | .double x => some (Decimal.text x)
  | _ => none

end Reply

end FullText
