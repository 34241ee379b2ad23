import FullText.Field
import FullText.Text.Blank

/-!
Index definitions. A schema is a name, an ordered list of fields with distinct names and the options
of the index; it serialises to the command that creates the index and to those that manage it.
-/

namespace FullText

/-- What indexed documents are kept as. -/
inductive Storage where
  | hash
  | json
deriving DecidableEq, Repr

def Storage.name : Storage → String
  | .hash => "hash"
  | .json => "json"

def Storage.ofName? (s : String) : Option Storage :=
  [Storage.hash, .json].find? fun storage => storage.name == s

/-- The definition of an index. -/
structure Schema where
  name : String
  storage : Storage := .hash
  language : Option String := none
  stopWords : Option (List String) := none
  keyPrefixes : Option (List String) := none
  noOffsets : Bool := false
  noFields : Bool := false
  noFrequencies : Bool := false
  fields : List Field := []

namespace Schema

def field? (schema : Schema) (name : String) : Option Field :=
  schema.fields.find? fun field => field.name == name

/-- A column without the name of the index and a point in front of it. -/
def bareColumn (schema : Schema) (column : String) : String :=
  ((Text.dropLead? schema.name column).bind (Text.dropLead? ".")).getD column

/-- The field that a column names, with or without the name of the index in front. -/
def resolve? (schema : Schema) (column : String) : Option Field :=
  schema.field? (schema.bareColumn column)

/-- The field that a column names; a column that names none is an error. -/
def resolve (schema : Schema) (column : String) : Except Error Field :=
  match schema.resolve? column with
  | some field => .ok field
  | none => .error (.unknownField schema.name column)

/-- The schema with one more field. The field has to be sound and its name new. -/
def addField (schema : Schema) (field : Field) : Except Error Schema := do
  field.check
  if (schema.field? field.name).isSome then
    throw (.duplicateFieldName field.name)
  return { schema with fields := schema.fields ++ [field] }

def prefixes (schema : Schema) : List String :=
  schema.keyPrefixes.getD []

/-- A keyword with a counted list of texts, if the list is set. -/
def countedTokens (keyword : String) : Option (List String) → List Arg
  | none => []
  | some texts => .text keyword :: .count texts.length :: texts.map .text

/-- The tokens of the options between the name of the index and its fields. -/
def optionTokens (schema : Schema) : List Arg :=
  (match schema.storage with
    | .hash => []
    | .json => [.text "ON", .text "JSON"]) ++
  countedTokens "PREFIX" schema.keyPrefixes ++
  (match schema.language with
    | none => []
    | some language => [.text "LANGUAGE", .text language]) ++
  FieldType.flag "NOOFFSETS" schema.noOffsets ++
  FieldType.flag "NOFIELDS" schema.noFields ++
  FieldType.flag "NOFREQS" schema.noFrequencies ++
  countedTokens "STOPWORDS" schema.stopWords

/-- The arguments that create the index. An index needs a field. -/
def creationTokens (schema : Schema) : Except Error (List Arg) :=
  if schema.fields.isEmpty then
    .error (.emptySchema schema.name)
  else
    .ok (.text schema.name :: schema.optionTokens ++
      .text "SCHEMA" :: schema.fields.flatMap Field.tokens)

def createCommand (schema : Schema) : Except Error Command :=
  schema.creationTokens.map fun args => { name := "FT.CREATE", args }

/-- The command that drops the index, with or without the documents. -/
def dropCommand (schema : Schema) (deleteDocuments : Bool) : Command :=
  .ofTexts "FT.DROPINDEX" (schema.name :: if deleteDocuments then ["DD"] else [])

def infoCommand (schema : Schema) : Command :=
  .ofTexts "FT.INFO" [schema.name]

def tagValuesCommand (schema : Schema) (column : String) : Except Error Command := do
  let field ← schema.resolve column
  if field.kind != .tag then
    throw (.unsupportedOperator column "TAGVALS" field.kind)
  return .ofTexts "FT.TAGVALS" [schema.name, field.name]

/-- The command that gives the index another name. -/
def aliasAddCommand (schema : Schema) (otherName : String) : Command :=
  .ofTexts "FT.ALIASADD" [otherName, schema.name]

/-- The command that moves a name to this index. -/
def aliasUpdateCommand (schema : Schema) (otherName : String) : Command :=
  .ofTexts "FT.ALIASUPDATE" [otherName, schema.name]

/-- The command that takes a name away. -/
def aliasDeleteCommand (otherName : String) : Command :=
  .ofTexts "FT.ALIASDEL" [otherName]

end Schema

end FullText
