import FullText.Error
import FullText.Row
import FullText.Script

/-!
Bulk writes. A bulk write is a list of entries, each of which says what is done to which document
and carries the document or a script; entries are lowered to the commands that carry them out.
-/

namespace FullText

/-- What a bulk entry does to its document. -/
inductive BulkOperation where
  | create
  | index
  | update
  | delete
deriving DecidableEq, Repr

namespace BulkOperation

def name : BulkOperation → String
  | .create => "create"
  | .index => "index"
  | .update => "update"
  | .delete => "delete"

def all : List BulkOperation :=
  [.create, .index, .update, .delete]

def ofName (s : String) : Except Error BulkOperation :=
  match all.find? fun operation => operation.name == s with
  | some operation => .ok operation
  | none => .error (.unsupportedBulkOperation s)

end BulkOperation

/-- The flags that go into the bodies of entries. -/
structure BulkOptions where
  docAsUpsert : Bool := false
  scriptedUpsert : Bool := false

/-- What a bulk entry carries. -/
inductive BulkBody where
  | document (doc : Row) (docAsUpsert : Bool)
  /-- A script, with the document that it starts from if there is none. -/
  | scripted (script : Script) (upsert : Row) (scriptedUpsert : Bool)

/-- One entry of a bulk write. Deletions carry nothing. -/
structure BulkEntry where
  operation : BulkOperation
  id : String
  index : String
  body : Option BulkBody

def BulkBody.toJson : BulkBody → Json
  | .document doc docAsUpsert =>
    .object [("doc", Row.toJson doc), ("doc_as_upsert", .bool docAsUpsert)]
  | .scripted script upsert scriptedUpsert =>
    .object [("script", script.toJson), ("upsert", Row.toJson upsert),
      ("scripted_upsert", .bool scriptedUpsert)]

namespace BulkEntry

def key (keySeparator : String) (entry : BulkEntry) : String :=
  entry.index ++ keySeparator ++ entry.id

/-- The commands that carry out an entry. A script has the key of the document as its first key and
the attributes of the document after its own arguments; a document without attributes needs no
command. -/
def commands (keySeparator nullSentinel : String) (entry : BulkEntry) : List Command :=
  let key := entry.key keySeparator
  match entry.operation, entry.body with
  | .delete, _ | _, none => [.ofTexts "DEL" [key]]
  | _, some (.document doc _) =>
    if doc.isEmpty then [] else [.ofTexts "HSET" (key :: Row.pairs nullSentinel doc)]
  | _, some (.scripted script upsert _) =>
    [{ name := "EVAL"
       args := (script.withDocumentKey key).compiled ++
        (Row.pairs nullSentinel upsert).map .text }]

def toJson (entry : BulkEntry) : Json :=
  .object [
    ("header", .object [("operation", .text entry.operation.name), ("id", .text entry.id),
      ("index", .text entry.index)]),
    ("body", Json.optional BulkBody.toJson entry.body)]

end BulkEntry

end FullText
