import FullText.Error

/-!
Documents decoded from replies. A search reply is an array of the total and then, for every hit, its
key and, unless only keys were asked for, an array of its attributes; names and values alternate in
it. A value that equals the null sentinel is null.
-/

namespace FullText

/-- A document with its attributes in the order of the reply; null has no text. -/
structure Document where
  key : String
  fields : List (String × Option String)
deriving DecidableEq, Repr

def unexpected (expected : Expectation) (got : Reply) : Error :=
  .unexpectedReply expected got.kind

namespace Document

/-- The text of an attribute, or null. A reply without text counts as null. -/
def fieldValue (nullSentinel : String) (value : Reply) : Option String :=
  value.text?.filter fun text => text != nullSentinel

/-- Attributes from alternating names and values. -/
def fieldsOf (nullSentinel : String) : List Reply → Except Error (List (String × Option String))
  | name :: value :: rest => do
    let some text := name.text? | throw (unexpected .fieldName name)
    return (text, fieldValue nullSentinel value) :: (← fieldsOf nullSentinel rest)
  | _ => .ok []

/-- A document from alternating names and values, of which there has to be an even number. -/
def ofPairs (key : String) (pairs : List Reply) (nullSentinel : String) : Except Error Document := do
  if pairs.length % 2 ≠ 0 then
    throw (unexpected .fieldPairs (.array pairs))
  return { key, fields := ← fieldsOf nullSentinel pairs }

/-- The text of the first attribute of a name, unless it is null. -/
def get? (document : Document) (name : String) : Option String :=
  (document.fields.find? fun field => field.1 == name).bind (·.2)

def isNull (document : Document) (name : String) : Bool :=
  document.fields.any fun field => field.1 == name && field.2.isNone

end Document

/-- What a search found: how many documents match, and the documents that it brought. -/
structure SearchResults where
  total : Nat
  documents : List Document
deriving DecidableEq, Repr

namespace SearchResults

/-- The total that the first part of a reply tells. -/
def totalOf (reply : Reply) : Except Error Nat :=
  match reply.toInt? with
  | some (.ofNat n) => .ok n
  | _ => .error (unexpected .naturalNumber reply)

/-- The documents in the part of a reply after the total. -/
def documentsOf (nullSentinel : String) : List Reply → Except Error (List Document)
  | [] => .ok []
  | item :: .array pairs :: rest => do
    let some key := item.text? | throw (unexpected .documentKey item)
    let document ← Document.ofPairs key pairs nullSentinel
    return document :: (← documentsOf nullSentinel rest)
  | item :: rest => do
    let some key := item.text? | throw (unexpected .documentKey item)
    return { key, fields := [] } :: (← documentsOf nullSentinel rest)

def ofReply (reply : Reply) (nullSentinel : String) : Except Error SearchResults :=
  match reply with
  | .array [] => .error (unexpected .searchTotal reply)
  | .array (first :: rest) => do
    let total ← totalOf first
    return { total, documents := ← documentsOf nullSentinel rest }
  | other => .error (unexpected .searchArray other)

/-- The total of a search reply, or of a reply that is the total. -/
def countOfReply : Reply → Except Error Nat
  | .array [] => .error (unexpected .searchTotal (.array []))
  | .array (first :: _) => totalOf first
  | other => totalOf other

def keys (results : SearchResults) : List String :=
  results.documents.map (·.key)

def isEmpty (results : SearchResults) : Bool :=
  results.documents.isEmpty

end SearchResults

end FullText
