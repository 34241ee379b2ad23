import FullText.OrderedMap
import FullText.Value

/-!
Rows: the attributes of one document in the order in which they were set. The attributes `_key`,
`_id` and `_index` say where the document goes; they are taken out before the others are written.
-/

namespace FullText

/-- The attributes of a document, by name. -/
abbrev Row :=
  OrderedMap Value

namespace Row

/-- The text of an attribute that names something. Null, a list and the empty text name nothing. -/
def identifier? (row : Row) (name : String) : Option String :=
  ((row.get? name).bind Value.render?).filter fun text => text != ""

/-- The attributes as they are written to a document: each name followed by its text. -/
def pairs (nullSentinel : String) (row : Row) : List String :=
  row.entries.flatMap fun (name, value) => [name, value.wireText nullSentinel]

def toJson (row : Row) : Json :=
  .object (row.entries.map fun (name, value) => (name, value.toJson))

end Row

end FullText
