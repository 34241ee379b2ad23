import FullText.Metrics
import FullText.Schema

/-!
The catalog of schemas. A schema is registered under its own name; registering a name again replaces
its schema and leaves it in its place. Each change is measured.
-/

namespace FullText

/-- The registered schemas by name, and the measurements taken so far. -/
structure Catalog where
  schemas : OrderedMap Schema := ∅
  metrics : List Metric := []

namespace Catalog

def measured (catalog : Catalog) : Catalog :=
  { catalog with metrics := catalog.metrics ++ [.registeredSchemas catalog.schemas.size] }

def register (catalog : Catalog) (schema : Schema) : Catalog :=
  measured { catalog with schemas := catalog.schemas.put schema.name schema }

/-- Removes the schema of a name. The answer says whether there was one. -/
def unregister (catalog : Catalog) (name : String) : Bool × Catalog :=
  if catalog.schemas.contains name then
    (true, measured { catalog with schemas := catalog.schemas.erase name })
  else
    (false, catalog)

def get? (catalog : Catalog) (name : String) : Option Schema :=
  catalog.schemas.get? name

/-- The schema of a name; a name without one is an error. -/
def resolve (catalog : Catalog) (name : String) : Except Error Schema :=
  match catalog.get? name with
  | some schema => .ok schema
  | none => .error (.schemaNotRegistered name)

/-- The schemas with a prefix of a key, each with the length of the prefix in bytes, in order. -/
def prefixMatches (catalog : Catalog) (key : String) : List (Schema × Nat) :=
  catalog.schemas.values.flatMap fun schema =>
    (schema.prefixes.filter (Text.startsWith · key)).map fun lead => (schema, lead.utf8ByteSize)

/-- The first of the pairs with the greatest number. -/
def firstLongest? {α : Type} (pairs : List (α × Nat)) : Option (α × Nat) :=
  pairs.foldl (fun best pair =>
    match best with
    | none => some pair
    | some (_, length) => if length < pair.2 then some pair else best) none

/-- The schema that documents of a key belong to: the first one with the longest prefix of it. -/
def schemaForKey? (catalog : Catalog) (key : String) : Option Schema :=
  (firstLongest? (catalog.prefixMatches key)).map (·.1)

def names (catalog : Catalog) : List String :=
  catalog.schemas.names.mergeSort fun a b => decide (a ≤ b)

def size (catalog : Catalog) : Nat :=
  catalog.schemas.size

end Catalog

end FullText
