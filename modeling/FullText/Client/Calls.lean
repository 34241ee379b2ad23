import FullText.Client
import FullText.Search
import FullText.SearchResults
import FullText.Write

/-!
The calls that a client can make, as dialogues with the store. Commands are put together first; a
mistake found then ends the call before anything is sent.
-/

namespace FullText

namespace Client

def expectSuccess (command : String) : Reply → Except Error Unit
  | .bool false => .error (.transport (.other (command ++ " reported failure")))
  | _ => .ok ()

def createIndex (schema : Schema) : Dialogue Unit := do
  let command ← .ofExcept schema.createCommand
  let reply ← .execute command
  .ofExcept (expectSuccess "FT.CREATE" reply)

/-- Drops the index of a schema, with or without the documents. -/
def dropIndex (schema : Schema) (deleteDocuments : Bool) : Dialogue Unit := do
  let reply ← .execute (schema.dropCommand deleteDocuments)
  .ofExcept (expectSuccess "FT.DROPINDEX" reply)

/-- Whether the store knows the index of a schema. -/
def indexExists (schema : Schema) : Dialogue Bool :=
  .send schema.infoCommand fun
    | .ok _ => .done (.ok true)
    | .error error =>
      match error.fault? with
      | some { kind := .unknownIndexName, .. } => .done (.ok false)
      | _ => .done (.error error)

/-- The tags in a tag field. Replies that carry no text are passed over. -/
def tagValues (schema : Schema) (column : String) : Dialogue (List String) := do
  let command ← .ofExcept (schema.tagValuesCommand column)
  match ← .execute command with
  | .array items => return items.filterMap Reply.message?
  | other => .fail (unexpected .tagList other)

def search (client : Client) (schema : Schema) (request : Request) : Dialogue SearchResults := do
  let command ← .ofExcept (request.selectCommand schema client.config)
  let reply ← .execute command
  let results ← .ofExcept (SearchResults.ofReply reply client.config.nullSentinel)
  .record (.searchResults results.documents.length)
  return results

def count (client : Client) (schema : Schema) (request : Request) : Dialogue Nat := do
  let command ← .ofExcept (request.countCommand schema client.config)
  let reply ← .execute command
  .ofExcept (SearchResults.countOfReply reply)

/-- The document that a reply to a read tells, if there is one. -/
def documentOf (client : Client) (key : String) : Reply → Except Error (Option Document)
  | .array [] => .ok none
  | .array pairs => (Document.ofPairs key pairs client.config.nullSentinel).map some
  | .nil => .ok none
  | other => .error (unexpected .hash other)

def find (client : Client) (schema : Schema) (id : String) : Dialogue (Option Document) := do
  let reply ← .execute (Write.readCommand client.config schema id)
  .ofExcept (client.documentOf (client.config.documentKey schema.name id) reply)

/-- Reads documents by their ids in one batch, in the order of the ids. -/
def findMany (client : Client) (schema : Schema) (ids : List String) :
    Dialogue (List (Option Document)) := do
  let replies ← .pipeline (Write.readCommands client.config schema ids)
  .ofExcept <| (ids.zip replies).mapM fun (id, reply) =>
    client.documentOf (client.config.documentKey schema.name id) reply

/-- Sends commands in one batch, and tells how many replies there were. -/
def sendAll (commands : List Command) : Dialogue Nat := do
  let replies ← .pipeline commands
  return replies.length

def insert (client : Client) (rows : List Row) : Dialogue Nat := do
  let commands ← .ofExcept (Write.insert client.config rows)
  sendAll commands

def update (client : Client) (row : Row) : Dialogue Unit := do
  let command ← .ofExcept (Write.update client.config row)
  let _ ← .execute command
  return ()

/-- Sends the commands of bulk entries, and tells how many there were. -/
def sendEntries (client : Client) (entries : Except Error (List BulkEntry)) : Dialogue Nat := do
  let entries ← .ofExcept entries
  sendAll (Write.lower client.config entries)

/-- Updates documents or brings them about, and tells the number of commands. -/
def upsert (client : Client) (schema : Schema) (rows : List Row) (scripts : Option (List Script)) :
    Dialogue Nat :=
  client.sendEntries (Write.upsert schema rows scripts)

/-- Does a bulk write, and tells the number of commands. -/
def bulk (client : Client) (schema : Schema) (operation : String) (rows : List Row)
    (scripts : List Script) (options : BulkOptions) : Dialogue Nat :=
  client.sendEntries (Write.bulk schema operation rows scripts options)

/-- Deletes the documents that a search has brought, and tells how many the store has deleted. -/
def deletePage (results : SearchResults) : Dialogue Nat := do
  if results.isEmpty then
    return 0
  let deleted ← .execute (Write.deleteCommand results.keys)
  return (deleted.toInt?.getD 0).toNat

/-- Deletes the documents that match, and tells how many the store has deleted. -/
def deleteByQuery (client : Client) (schema : Schema) (request : Request) : Dialogue Nat := do
  let command ← .ofExcept (request.deletionCommand schema client.config)
  let reply ← .execute command
  let results ← .ofExcept (SearchResults.ofReply reply client.config.nullSentinel)
  deletePage results

/-- Adds to a numeric attribute, and tells the sum. -/
def increment (key field : String) (amount : Int) : Dialogue Int := do
  let reply ← .execute (Write.incrementCommand key field amount)
  match reply.toInt? with
  | some n => return n
  | none => .fail (unexpected .integer reply)

def runScript (script : Script) : Dialogue Reply :=
  .execute script.command

end Client

end FullText
