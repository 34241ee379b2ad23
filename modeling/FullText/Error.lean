import FullText.Decimal.Layout
import FullText.Fault
import FullText.Field.Kind
import FullText.Reply
import FullText.Text.Quoted
import FullText.TransportError

/-!
Everything that can go wrong. The causes fall into two families: mistakes of the caller, found
before anything is sent, and answers of the store or the way to it. Each cause has its text in
`Error.text`.
-/

namespace FullText

/-- What is wrong with a value that a field is given. -/
inductive ValueIssue where
  | weightNotPositive (weight : Float)
  | separatorLength (separator : String)
  | dimensionZero
  | nullComparison
  | listComparison
  | notScalar
  | emptyList
  | notNumber
  | notFinite
  /-- A pattern that is made of wildcards only. -/
  | noLiteral
  | coordinatesOutOfRange
  | negativeRadius

def ValueIssue.text : ValueIssue → String
  | .weightNotPositive weight =>
    "weight must be a positive number, got " ++ Decimal.text weight
  | .separatorLength separator =>
    "separator must be a single character, got " ++ Text.quoted separator
  | .dimensionZero => "vector dimension must be positive"
  | .nullComparison => "null only supports = and <>"
  | .listComparison => "lists only support = and <>"
  | .notScalar => "expected a scalar value"
  | .emptyList => "value list must not be empty"
  | .notNumber => "expected a number"
  | .notFinite => "expected a finite number"
  | .noLiteral => "like pattern has no literal prefix"
  | .coordinatesOutOfRange => "coordinates out of range"
  | .negativeRadius => "radius must be a non-negative number"

/-- What is wrong with a configuration. -/
inductive ConfigIssue where
  /-- The text is no JSON description of a configuration. -/
  | unreadable
  | emptyNullSentinel
  | nullSentinelNotOneTerm
  | emptyKeySeparator
  | noResults
  | noAddress
deriving DecidableEq, Repr

def ConfigIssue.text : ConfigIssue → String
  | .unreadable => "invalid config"
  | .emptyNullSentinel => "null_sentinel must not be empty"
  | .nullSentinelNotOneTerm => "null_sentinel must be a single term"
  | .emptyKeySeparator => "key_separator must not be empty"
  | .noResults => "max_results must be positive"
  | .noAddress => "redis_url is not set"

/-- What a reply, or a part of one, was to be. -/
inductive Expectation where
  | fieldPairs
  | fieldName
  | searchArray
  | searchTotal
  | naturalNumber
  | documentKey
  | tagList
  | hash
  | integer
deriving DecidableEq, Repr

def Expectation.text : Expectation → String
  | .fieldPairs => "field/value pairs"
  | .fieldName => "field name"
  | .searchArray => "search array"
  | .searchTotal => "search total"
  | .naturalNumber => "non-negative integer"
  | .documentKey => "document key"
  | .tagList => "tag list"
  | .hash => "hash"
  | .integer => "integer"

/-- What went wrong. -/
inductive Error where
  | emptySchema (index : String)
  | duplicateFieldName (name : String)
  | emptyFieldName
  | invalidFieldOption (kind : FieldKind) (option : FieldOption)
  | unknownField (index column : String)
  | unsupportedOperator (column operator : String) (kind : FieldKind)
  | invalidValue (column : String) (issue : ValueIssue)
  | multipleSorts (count : Nat)
  | schemaNotRegistered (name : String)
  | missingRowKey (row : Nat)
  | missingUpsertIdentifier (row : Nat)
  | scriptCountMismatch (scripts rows : Nat)
  | missingDocumentId (row : Nat)
  | unsupportedBulkOperation (operation : String)
  | scriptOperationMismatch (operation : String)
  | store (fault : Fault)
  | batchFailure (failed total : Nat) (first : String)
  | unexpectedReply (expected : Expectation) (got : ReplyKind)
  | transport (error : TransportError)
  | config (issue : ConfigIssue)

namespace Error

def text : Error → String
  | .emptySchema index =>
    "Index '" ++ index ++ "' has no fields; at least one field is required"
  | .duplicateFieldName name => "Field '" ++ name ++ "' is already defined in this index"
  | .emptyFieldName => "Field names must not be empty"
  | .invalidFieldOption kind option =>
    "Option '" ++ option.name ++ "' is not supported by " ++ kind.keyword ++ " fields"
  | .unknownField index column => "Unknown field '" ++ column ++ "' in index '" ++ index ++ "'"
  | .unsupportedOperator column operator kind =>
    "Operator '" ++ operator ++ "' cannot be used on " ++ kind.keyword ++ " field '" ++ column ++ "'"
  | .invalidValue column issue => "Invalid value for field '" ++ column ++ "': " ++ issue.text
  | .multipleSorts count => "Only one sort directive is supported, got " ++ toString count
  | .schemaNotRegistered name => "No schema registered under '" ++ name ++ "'"
  | .missingRowKey row => "Row " ++ toString row ++ " has no '_key' attribute"
  | .missingUpsertIdentifier row =>
    "All upserts must have an identifier (row " ++ toString row ++ " has none)"
  | .scriptCountMismatch scripts rows =>
    "There must be exactly one script per row: " ++ toString scripts ++ " scripts for " ++
      toString rows ++ " rows"
  | .missingDocumentId row => "Row " ++ toString row ++ " has no '_id' attribute"
  | .unsupportedBulkOperation operation => "Invalid bulk operation '" ++ operation ++ "'"
  | .scriptOperationMismatch operation =>
    "Scripts can only be used with the update operation, not '" ++ operation ++ "'"
  | .store fault => fault.text
  | .batchFailure failed total first =>
    toString failed ++ " of " ++ toString total ++ " batched commands failed; first error: " ++ first
  | .unexpectedReply expected got => "Expected " ++ expected.text ++ " reply, got " ++ got.name
  | .transport error => error.text
  | .config issue => "Configuration error: " ++ issue.text

/-- Whether the error is a mistake of the caller, found before anything is sent. -/
def isValidation : Error → Bool
  | .store _ | .batchFailure .. | .unexpectedReply .. | .transport _ | .config _ => false
  | _ => true

def fault? : Error → Option Fault
  | .store fault => some fault
  | _ => none

end Error

end FullText
