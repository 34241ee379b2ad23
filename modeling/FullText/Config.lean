import FullText.Error
import FullText.Json.Tree
import FullText.Text.Blank

/-!
Settings that the compiler of queries, the writer of documents and the client share.
-/

namespace FullText

/-- The settings. Each has a usual value. -/
structure Config where
  /-- The term that is stored in the place of null. -/
  nullSentinel : String := "_null_"
  /-- What stands between the name of an index and the id of a document in a key. -/
  keySeparator : String := "::"
  /-- How many results are asked for when a request has an offset but no limit. -/
  maxResults : Nat := 10000
  /-- Where the store is. -/
  address : Option String := none

namespace Config

/-- What is wrong with the settings, if anything. -/
def issue? (config : Config) : Option ConfigIssue :=
  if config.nullSentinel = "" then some .emptyNullSentinel
  else if config.nullSentinel.toList.any Text.isBlank then some .nullSentinelNotOneTerm
  else if config.keySeparator = "" then some .emptyKeySeparator
  else if config.maxResults = 0 then some .noResults
  else none

def validate (config : Config) : Except Error Unit :=
  match config.issue? with
  | some issue => .error (.config issue)
  | none => .ok ()

def documentKey (config : Config) (index id : String) : String :=
  index ++ config.keySeparator ++ id

/-- The settings that a JSON value describes, by name or in order. -/
def ofTree? (tree : JsonTree) : Option Config := do
  let values ← tree.record? ["null_sentinel", "key_separator", "max_results", "redis_url"]
  let [nullSentinel, keySeparator, maxResults, address] := values | none
  let usual : Config := {}
  return {
    nullSentinel := ← JsonTree.withDefault? usual.nullSentinel JsonTree.text? nullSentinel
    keySeparator := ← JsonTree.withDefault? usual.keySeparator JsonTree.text? keySeparator
    maxResults := ← JsonTree.withDefault? usual.maxResults (JsonTree.natBelow? UInt64.size) maxResults
    address := ← JsonTree.nullable? JsonTree.text? address }

/-- The settings that a JSON text describes, checked. -/
def read (text : String) : Except Error Config := do
  let some config := (JsonTree.read? text).bind ofTree? | throw (.config .unreadable)
  config.validate
  return config

/-- The address of the store under settings that are sound. -/
def addressToConnect (config : Config) : Except Error String := do
  config.validate
  let some address := config.address | throw (.config .noAddress)
  return address

end Config

end FullText
