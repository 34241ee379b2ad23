import FullText.Bulk
import FullText.Config
import FullText.Schema

/-!
Writing and reading documents by key. Rows are written as hashes. Insertions and updates take the
key from the attribute `_key`; upserts and bulk writes take the id from `_id`, the index from
`_index` or else from the schema, and join them to the key.
-/

namespace FullText

namespace Write

/-- The command that writes a row under its own key; `position` is told in the error. -/
def store (config : Config) (position : Nat) (row : Row) : Except Error Command :=
  match Row.identifier? row "_key" with
  | some key =>
    .ok (.ofTexts "HSET" (key :: Row.pairs config.nullSentinel (row.erase "_key")))
  | none => .error (.missingRowKey position)

def insert (config : Config) (rows : List Row) : Except Error (List Command) :=
  rows.zipIdx.mapM fun (row, position) => store config position row

def update (config : Config) (row : Row) : Except Error Command :=
  store config 0 row

/-- The entry for a row: its id, its index, and the body made of the attributes that are left. A row
without an id has no entry. -/
def entry? (schema : Schema) (operation : BulkOperation) (body : Row → Option BulkBody)
    (row : Row) : Option BulkEntry := do
  let id ← Row.identifier? row "_id"
  let row := row.erase "_id"
  return {
    operation
    id
    index := (Row.identifier? row "_index").getD schema.name
    body := body (row.erase "_index") }

/-- The body of an entry: a script with the row, or the row alone. -/
def body (options : BulkOptions) : Option Script → Row → BulkBody
  | some script, row => .scripted script row options.scriptedUpsert
  | none, row => .document row options.docAsUpsert

/-- The entries for rows; `scripts` are paired with the rows in order, and `missing` is the error
for a row without an id. -/
def entries (schema : Schema) (operation : BulkOperation) (options : BulkOptions)
    (missing : Nat → Error) (rows : List Row) (scripts : List Script) :
    Except Error (List BulkEntry) :=
  rows.zipIdx.mapM fun (row, position) =>
    let made := if operation = .delete then fun _ => none
      else fun left => some (body options scripts[position]? left)
    match entry? schema operation made row with
    | some entry => .ok entry
    | none => .error (missing position)

/-- Whether a row says which document it is about. -/
def hasId (row : Row) : Bool :=
  ((row.get? "_id").bind Value.render?).any fun id => id != ""

/-- The entries that update documents or bring them about, for rows from a position on. Every row
uses up a script, as long as there are any. -/
def upsertFrom (schema : Schema) (position : Nat) :
    List Row → List Script → Except Error (List BulkEntry)
  | [], _ => .ok []
  | row :: rows, scripts => do
    let made := body { docAsUpsert := true, scriptedUpsert := true } scripts.head?
    let some entry := entry? schema .update (fun left => some (made left)) row
      | throw (.missingUpsertIdentifier position)
    return entry :: (← upsertFrom schema (position + 1) rows scripts.tail)

/-- Entries that update documents or bring them about. Scripts, if there are any, have to be as many
as rows, and no entry is made before all rows are known to have ids. -/
def upsert (schema : Schema) (rows : List Row) (scripts : Option (List Script)) :
    Except Error (List BulkEntry) := do
  if let some scripts := scripts then
    if scripts.length ≠ rows.length then
      throw (.scriptCountMismatch scripts.length rows.length)
  if let some position := rows.findIdx? fun row => !hasId row then
    throw (.missingUpsertIdentifier position)
  upsertFrom schema 0 rows (scripts.getD [])

/-- Entries of an operation given by its name. Only updates take scripts, and then one for each
row. -/
def bulk (schema : Schema) (operation : String) (rows : List Row) (scripts : List Script)
    (options : BulkOptions) : Except Error (List BulkEntry) := do
  let operation ← BulkOperation.ofName operation
  if !scripts.isEmpty then
    if operation ≠ .update then
      throw (.scriptOperationMismatch operation.name)
    if scripts.length ≠ rows.length then
      throw (.scriptCountMismatch scripts.length rows.length)
  entries schema operation options .missingDocumentId rows scripts

/-- Entries that delete documents by their ids. -/
def deletions (schema : Schema) (ids : List String) : List BulkEntry :=
  ids.map fun id => { operation := .delete, id, index := schema.name, body := none }

def lower (config : Config) (entries : List BulkEntry) : List Command :=
  entries.flatMap (BulkEntry.commands config.keySeparator config.nullSentinel)

def readCommand (config : Config) (schema : Schema) (id : String) : Command :=
  .ofTexts "HGETALL" [config.documentKey schema.name id]

/-- The commands that read documents, one each. -/
def readCommands (config : Config) (schema : Schema) (ids : List String) : List Command :=
  ids.map (readCommand config schema)

def deleteCommand (keys : List String) : Command :=
  .ofTexts "DEL" keys

/-- The command that adds to a numeric attribute. -/
def incrementCommand (key field : String) (amount : Int) : Command :=
  { name := "HINCRBY", args := [.text key, .text field, .int amount] }

end Write

end FullText
