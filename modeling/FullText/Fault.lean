import FullText.Text.Blank
import FullText.Text.Case

/-!
Faults: error messages of the store that are understood. The store reports errors as free text;
`FaultKind.ofMessage?` compares the text, without blanks around it and without regard to case, with
the known messages.
-/

namespace FullText

/-- The store errors that are told apart. -/
inductive FaultKind where
  /-- Indexes live in the first database only. -/
  | unsupportedDatabase
  | unknownIndexName
  | unsupportedLanguage
  /-- An alias stands where an index is needed, or an index where an alias is. -/
  | ambiguousIndexOrAlias
  | aliasNotFound
  /-- The store runs without its search commands. -/
  | unknownSearchCommand
  | duplicateDocument
deriving DecidableEq, Repr

namespace FaultKind

def name : FaultKind → String
  | .unsupportedDatabase => "unsupported_database"
  | .unknownIndexName => "unknown_index_name"
  | .unsupportedLanguage => "unsupported_language"
  | .ambiguousIndexOrAlias => "ambiguous_index_or_alias"
  | .aliasNotFound => "alias_not_found"
  | .unknownSearchCommand => "unknown_search_command"
  | .duplicateDocument => "duplicate_document"

/-- The store's words for a language that it does not know. -/
def languageMessages : List String :=
  ["no such language", "unsupported language", "unsupported stemmer language",
    "bad argument for `language`"]

/-- The store's words for a document that is there already. -/
def duplicateMessages : List String :=
  ["document already in index", "document already exists"]

/-- The kind that a message in lower case, without blanks around it, reports. -/
def ofLowered? (message : String) : Option FaultKind :=
  if message == "cannot create index on db != 0" then
    some .unsupportedDatabase
  else if Text.contains message ": no such index" || message == "unknown index name" then
    some .unknownIndexName
  else if languageMessages.contains message then
    some .unsupportedLanguage
  else if message == "unknown index name (or name is an alias itself)" then
    some .ambiguousIndexOrAlias
  else if message == "alias does not exist" then
    some .aliasNotFound
  else if Text.contains message "err unknown command 'ft." then
    some .unknownSearchCommand
  else if duplicateMessages.contains message then
    some .duplicateDocument
  else
    none

/-- The kind of fault that a message of the store reports. -/
def ofMessage? (message : String) : Option FaultKind :=
  ofLowered? (Text.lower (Text.trim message))

end FaultKind

/-- A store error that is understood. -/
structure Fault where
  kind : FaultKind
  /-- The store's message, as it came. -/
  message : String
  /-- The first arguments of the command, for a document that is there already. -/
  context : Option (List String) := none
deriving DecidableEq, Repr

def Fault.text (fault : Fault) : String :=
  fault.kind.name ++ ": " ++ fault.message

end FullText
