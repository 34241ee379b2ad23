import FullText.Decimal.Reading
import FullText.OrderedMap
import FullText.Text.Case
import FullText.Transport

/-!
A store in memory. It keeps hashes under keys and carries out the commands that write, read and
delete them; it does not evaluate searches, but answers any command whose answer was prepared.
-/

namespace FullText

/-- A prepared answer. -/
inductive Prepared where
  | reply (reply : Reply)
  | error (error : TransportError)
  /-- A bare `false`, with a message that is left behind. -/
  | silent (message : String)

/-- The fields of a hash in the order in which they were first set. -/
abbrev Hash :=
  OrderedMap String

/-- The state of the store. -/
structure Store where
  hashes : OrderedMap Hash := ∅
  /-- The prepared answers, by the name of the command in upper case. -/
  prepared : OrderedMap Prepared := ∅
  /-- The commands received so far. -/
  sent : List Command := []
  lastError : Option String := none

namespace Store

/-- Prepares the answer to every command of a name, in any case. -/
def prepare (store : Store) (command : String) (answer : Prepared) : Store :=
  { store with prepared := store.prepared.put (Text.upper command) answer }

def hash? (store : Store) (key : String) : Option Hash :=
  store.hashes.get? key

def size (store : Store) : Nat :=
  store.hashes.size

def arityError (command : String) : TransportError :=
  .server ("ERR wrong number of arguments for '" ++ command ++ "' command")

/-- Sets fields to values, which alternate in a list, and counts the new fields. -/
def setFields : List String → Hash → Nat × Hash
  | field :: value :: rest, hash =>
    let (added, set) := setFields rest (hash.put field value)
    (if hash.contains field then added else added + 1, set)
  | _, hash => (0, hash)

/-- Sets fields of a hash, and tells how many of them are new. -/
def hset (args : List String) (store : Store) : Except TransportError Reply × Store :=
  match args with
  | key :: pairs =>
    if pairs.isEmpty || pairs.length % 2 ≠ 0 then
      (.error (arityError "hset"), store)
    else
      let (added, hash) := setFields pairs ((store.hash? key).getD ∅)
      (.ok (.int added), { store with hashes := store.hashes.put key hash })
  | [] => (.error (arityError "hset"), store)

def hgetall (args : List String) (store : Store) : Except TransportError Reply × Store :=
  match args with
  | [key] =>
    let entries := ((store.hash? key).getD ∅).entries
    (.ok (.array (entries.flatMap fun (field, value) => [.bulk field, .bulk value])), store)
  | _ => (.error (arityError "hgetall"), store)

/-- Removes keys, and counts those that were there. -/
def removeKeys : List String → OrderedMap Hash → Nat × OrderedMap Hash
  | [], hashes => (0, hashes)
  | key :: keys, hashes =>
    let (removed, left) := removeKeys keys (hashes.erase key)
    (if hashes.contains key then removed + 1 else removed, left)

/-- Deletes hashes, and tells how many there were. -/
def del (args : List String) (store : Store) : Except TransportError Reply × Store :=
  if args.isEmpty then
    (.error (arityError "del"), store)
  else
    let (removed, hashes) := removeKeys args store.hashes
    (.ok (.int removed), { store with hashes })

/-- The integer in a field; a field that is not there counts as zero. -/
def counter (hash : Hash) (field : String) : Except TransportError Int :=
  match hash.get? field with
  | none => .ok 0
  | some text =>
    match Decimal.readInt64? text with
    | some n => .ok n
    | none => .error (.server "ERR hash value is not an integer")

/-- The sum of the integer in a field and an amount, as long as it fits in 64 bits. -/
def incremented (hash : Hash) (field : String) (amount : Int) : Except TransportError Int := do
  let sum := (← counter hash field) + amount
  if Decimal.fitsInt64 sum then return sum
  else throw (.server "ERR increment or decrement would overflow")

/-- Adds to an integer field, and tells the sum. The hash comes into being as soon as the amount is
understood. -/
def hincrby (args : List String) (store : Store) : Except TransportError Reply × Store :=
  match args with
  | [key, field, amount] =>
    match Decimal.readInt64? amount with
    | none => (.error (.server "ERR value is not an integer or out of range"), store)
    | some amount =>
      let hash := (store.hash? key).getD ∅
      match incremented hash field amount with
      | .error error => (.error error, { store with hashes := store.hashes.put key hash })
      | .ok sum =>
        let hashes := store.hashes.put key (hash.put field (toString sum))
        (.ok (.int sum), { store with hashes })
  | _ => (.error (arityError "hincrby"), store)

def unknownCommand (name : String) (args : List String) : TransportError :=
  let shown (arg : String) := "'" ++ arg ++ "' "
  .server ("ERR unknown command '" ++ name ++ "', with args beginning with: " ++
    String.join ((args.take 1).map shown))

def perform (command : Command) (store : Store) : Except TransportError Reply × Store :=
  let args := command.argTexts
  match Text.upper command.name with
  | "HSET" => hset args store
  | "HGETALL" => hgetall args store
  | "DEL" => del args store
  | "HINCRBY" => hincrby args store
  | _ => (.error (unknownCommand command.name args), store)

/-- Receives a command: gives the prepared answer if there is one, and else carries it out. -/
def execute (command : Command) (store : Store) : Except TransportError Reply × Store :=
  let store := { store with sent := store.sent ++ [command] }
  match store.prepared.get? (Text.upper command.name) with
  | some (.reply reply) => (.ok reply, store)
  | some (.error error) => (.error error, store)
  | some (.silent message) => (.ok (.bool false), { store with lastError := some message })
  | none => perform command store

instance : Transport Store where
  execute := execute
  pipeline := Transport.oneByOne execute
  lastError := Store.lastError

end Store

end FullText
