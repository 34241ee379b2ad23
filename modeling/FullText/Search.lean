import FullText.Query.Compilation
import FullText.Request

/-!
Search commands. The arguments are the index, the query, and then the directives that the request
sets: the sort, the page and the content, in this order.
-/

namespace FullText

namespace Request

/-- The tokens of the sort directive. There can be one at most, and its column has to be known. -/
def sortTokens (schema : Schema) : List SortKey → Except Error (List Arg)
  | [] => .ok []
  | [sort] => do
    let field ← schema.resolve sort.column
    return [.text "SORTBY", .text field.name, .text sort.direction.keyword]
  | sorts => .error (.multipleSorts sorts.length)

/-- The tokens of the page: none if neither an offset nor a limit is set. -/
def pageTokens (config : Config) : (offset limit : Option Nat) → List Arg
  | none, none => []
  | offset, limit =>
    [.text "LIMIT", .count (offset.getD 0), .count (limit.getD config.maxResults)]

def projectionTokens (schema : Schema) : Projection → List Arg
  | .all => []
  | .columns names =>
    .text "RETURN" :: .count names.length :: names.map fun name => .text (schema.bareColumn name)

/-- The tokens of the content; a search for keys has no use for a projection. -/
def contentTokens (schema : Schema) (request : Request) : List Arg :=
  if request.noContent then [.text "NOCONTENT"] else projectionTokens schema request.projection

/-- A search of an index, with the directives after the query. -/
def searchCommand (schema : Schema) (query : Query) (directives : List Arg) : Command :=
  { name := "FT.SEARCH", args := .text schema.name :: .text query.text :: directives }

def selectCommand (schema : Schema) (config : Config) (request : Request) :
    Except Error Command := do
  let query ← Query.ofClauses schema config request.clauses
  let sort ← sortTokens schema request.sorts
  return searchCommand schema query
    (sort ++ pageTokens config request.offset request.limit ++ contentTokens schema request)

/-- The search for the number of documents that match. -/
def countCommand (schema : Schema) (config : Config) (request : Request) :
    Except Error Command := do
  let query ← Query.ofClauses schema config request.clauses
  return searchCommand schema query (pageTokens config (some 0) (some 0) ++ [.text "NOCONTENT"])

/-- The search for the documents to delete. It always asks for a page, so that the page size of the
store does not cut it short. -/
def deletionCommand (schema : Schema) (config : Config) (request : Request) :
    Except Error Command := do
  let query ← Query.ofClauses schema config request.clauses
  let sort ← sortTokens schema request.sorts
  let page := pageTokens config (some (request.offset.getD 0)) request.limit
  return searchCommand schema query (sort ++ page ++ contentTokens schema request)

end Request

end FullText
