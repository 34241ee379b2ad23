import FullText.Predicate

/-!
Search requests. A request is built up from one without clauses, step by step.
-/

namespace FullText

/-- Which way results are sorted. -/
inductive Direction where
  | asc
  | desc
deriving DecidableEq, Repr

namespace Direction

def keyword : Direction → String
  | .asc => "ASC"
  | .desc => "DESC"

def name : Direction → String
  | .asc => "Asc"
  | .desc => "Desc"

/-- The direction that a text asks for: descending if it says so, and ascending in any other
case. -/
def ofText (s : String) : Direction :=
  if Text.lowerAscii (Text.trim s) = "desc" then .desc else .asc

end Direction

/-- A column that results are sorted by. -/
structure SortKey where
  column : String
  direction : Direction

/-- Which attributes of the documents a search brings. -/
inductive Projection where
  | all
  | columns (names : List String)

/-- A search against one index. -/
structure Request where
  index : String
  clauses : List Clause := []
  sorts : List SortKey := []
  offset : Option Nat := none
  limit : Option Nat := none
  projection : Projection := .all
  /-- Whether the search brings keys only. -/
  noContent : Bool := false

namespace Request

def join (request : Request) (junction : Junction) (predicate : Predicate) : Request :=
  { request with clauses := request.clauses ++ [{ junction, predicate }] }

def and (request : Request) (predicate : Predicate) : Request :=
  request.join .and predicate

/-- Adds a clause that begins an alternative. -/
def or (request : Request) (predicate : Predicate) : Request :=
  request.join .or predicate

def orderBy (request : Request) (column : String) (direction : Direction) : Request :=
  { request with sorts := request.sorts ++ [{ column, direction }] }

def skip (request : Request) (offset : Nat) : Request :=
  { request with offset := some offset }

/-- Bounds the number of results. -/
def take (request : Request) (limit : Nat) : Request :=
  { request with limit := some limit }

def select (request : Request) (columns : List String) : Request :=
  { request with projection := .columns columns }

def withoutContent (request : Request) : Request :=
  { request with noContent := true }

def projectionJson : Projection → Json
  | .all => .text "All"
  | .columns names => .object [("Columns", .texts names)]

def toJson (request : Request) : Json :=
  let sortJson (sort : SortKey) : Json :=
    .object [("column", .text sort.column), ("direction", .text sort.direction.name)]
  let count : Option Nat → Json := Json.optional fun n => .int n
  .object [
    ("index", .text request.index),
    ("clauses", .array (Predicate.clausesJson request.clauses)),
    ("sorts", .array (request.sorts.map sortJson)),
    ("offset", count request.offset),
    ("limit", count request.limit),
    ("projection", projectionJson request.projection),
    ("no_content", .bool request.noContent)]

end Request

end FullText
