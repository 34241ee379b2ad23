import FullText.Config
import FullText.Query
import FullText.Schema

/-!
Predicates compiled to queries. The type of the field that a predicate tests decides what becomes of
it; what the type does not support is an error. Clauses are taken in order and the first error is
the result. A clause that begins an alternative starts a new group, and the groups become the
alternatives of the query.
-/

namespace FullText

/-- The test with its shorthands written out: an equality with null is a null test, and an equality
with a list is a membership. -/
def Test.written (column : String) : Test → Except Error Test
  | .compare operator value =>
    match operator, value.resolved with
    | .eq, .null => .ok .isNull
    | .ne, .null => .ok .notNull
    | .eq, .list values => .ok (.isIn values)
    | .ne, .list values => .ok (.notIn values)
    | _, .null => .error (.invalidValue column .nullComparison)
    | _, .list _ => .error (.invalidValue column .listComparison)
    | _, _ => .ok (.compare operator value)
  | asked => .ok asked

def scalarOperand (column : String) (value : Value) : Except Error String :=
  match value.render? with
  | some text => .ok text
  | none => .error (.invalidValue column .notScalar)

def numericOperand (column : String) (value : Value) : Except Error Numeral :=
  match value.resolved with
  | .int n => .ok (.int n)
  | other =>
    match other.toFloat? with
    | some x => if x.isFinite then .ok (.float x) else .error (.invalidValue column .notFinite)
    | none => .error (.invalidValue column .notNumber)

/-- The operands of a membership, of which there has to be one. -/
def operands {α : Type} (read : Value → Except Error α) (column : String) (values : List Value) :
    Except Error (List α) :=
  if values.isEmpty then .error (.invalidValue column .emptyList) else values.mapM read

namespace Query

def exactly (n : Numeral) : Condition :=
  .range (.inclusive n) (.inclusive n)

/-- One of several numbers in a field. -/
def anyNumber (name : String) (numbers : List Numeral) : Query :=
  match numbers.map fun n => Query.field name (exactly n) with
  | [query] => query
  | queries => .group (.any queries)

/-- What a test means on a text field. -/
def ofTextTest? (config : Config) (column name : String) : Test → Option (Except Error Query)
  | .compare .eq value => some do
    return .field name (.phrase (← scalarOperand column value))
  | .compare .ne value => some do
    return .not (.field name (.phrase (← scalarOperand column value)))
  | .compare .like value => some do
    let stem := Text.strip (fun c => c == '%' || c == '*') (← scalarOperand column value)
    if stem = "" then
      throw (.invalidValue column .noLiteral)
    return .field name (.startingWith stem)
  | .isIn values => some do
    return .field name (.anyPhrase (← operands (scalarOperand column) column values))
  | .notIn values => some do
    return .not (.field name (.anyPhrase (← operands (scalarOperand column) column values)))
  | .isNull => some (.ok (.field name (.nullTerm config.nullSentinel)))
  | .notNull => some (.ok (.not (.field name (.nullTerm config.nullSentinel))))
  | _ => none

def between (column name : String) (low high : Value) : Except Error Query := do
  let low ← numericOperand column low
  let high ← numericOperand column high
  return .field name (.range (.inclusive low) (.inclusive high))

def ofNumericTest? (column name : String) : Test → Option (Except Error Query)
  | .compare .like _ => none
  | .compare .eq value => some do
    return .field name (exactly (← numericOperand column value))
  | .compare .ne value => some do
    return .not (.field name (exactly (← numericOperand column value)))
  | .compare .gt value => some do
    return .field name (.range (.exclusive (← numericOperand column value)) .top)
  | .compare .gte value => some do
    return .field name (.range (.inclusive (← numericOperand column value)) .top)
  | .compare .lt value => some do
    return .field name (.range .bottom (.exclusive (← numericOperand column value)))
  | .compare .lte value => some do
    return .field name (.range .bottom (.inclusive (← numericOperand column value)))
  | .isIn values => some do
    return anyNumber name (← operands (numericOperand column) column values)
  | .notIn values => some do
    return .not (anyNumber name (← operands (numericOperand column) column values))
  | .between low high => some (between column name low high)
  | .notBetween low high => some ((between column name low high).map .not)
  | .isNull => some (.ok (.not (.field name (.range .bottom .top))))
  | .notNull => some (.ok (.field name (.range .bottom .top)))
  | _ => none

def ofTagTest? (config : Config) (column name : String) : Test → Option (Except Error Query)
  | .compare .eq value => some do
    return .field name (.anyTag [← scalarOperand column value])
  | .compare .ne value => some do
    return .not (.field name (.anyTag [← scalarOperand column value]))
  | .isIn values => some do
    return .field name (.anyTag (← operands (scalarOperand column) column values))
  | .notIn values => some do
    return .not (.field name (.anyTag (← operands (scalarOperand column) column values)))
  | .isNull => some (.ok (.field name (.nullTag config.nullSentinel)))
  | .notNull => some (.ok (.not (.field name (.nullTag config.nullSentinel))))
  | _ => none

def inRange (low high x : Float) : Bool :=
  low ≤ x && x ≤ high

/-- What a test means on a field of points. -/
def ofGeoTest? (column name : String) : Test → Option (Except Error Query)
  | .near lon lat radius unit => some <|
    if !(inRange (-180) 180 lon) || !(inRange (-90) 90 lat) then
      .error (.invalidValue column .coordinatesOutOfRange)
    else if !radius.isFinite || radius < 0 then
      .error (.invalidValue column .negativeRadius)
    else
      .ok (.field name (.circle lon lat radius unit))
  | _ => none

/-- What a test means on a field, if its type supports the test. -/
def ofFieldTest? (config : Config) (column : String) (field : Field) (asked : Test) :
    Option (Except Error Query) :=
  match field.type with
  | .text .. => ofTextTest? config column field.name asked
  | .numeric .. => ofNumericTest? column field.name asked
  | .tag .. => ofTagTest? config column field.name asked
  | .geo .. => ofGeoTest? column field.name asked
  | .geoShape .. | .vector .. => none

/-- The query for a test of a column. -/
def ofTest (schema : Schema) (config : Config) (column : String) (asked : Test) :
    Except Error Query := do
  let field ← schema.resolve column
  let asked ← asked.written column
  match ofFieldTest? config column field asked with
  | some query => query
  | none => throw (.unsupportedOperator column asked.operatorName field.kind)

/-- Splits joined items into the rest of a group that has begun and the groups that follow: an item
joined by `or` begins a group, and the items joined by `and` after it belong to it. -/
def splitGroups {α : Type} : List (Joined α) → List α × List (List α)
  | [] => ([], [])
  | { junction := .and, predicate } :: rest =>
    let (run, later) := splitGroups rest
    (predicate :: run, later)
  | { junction := .or, predicate } :: rest =>
    let (run, later) := splitGroups rest
    ([], (predicate :: run) :: later)

/-- The groups of joined items. The first item begins a group however it is joined. -/
def groups {α : Type} : List (Joined α) → List (List α)
  | [] => []
  | { junction := _, predicate } :: rest =>
    let (run, later) := splitGroups rest
    (predicate :: run) :: later

/-- A group as one of several alternatives. -/
def alternative : List Query → Query
  | [query] => query
  | queries => .group (.all queries)

/-- The query of joined queries, if there are any. -/
def ofParts? (parts : List (Joined Query)) : Option Query :=
  match groups parts with
  | [] => none
  | [queries] => some (.all queries)
  | several => some (.any (several.map alternative))

mutual

/-- The query of a predicate. Blank query text and empty parentheses have none. -/
def ofPredicate? (schema : Schema) (config : Config) : Predicate → Except Error (Option Query)
  | .test column asked => (ofTest schema config column asked).map some
  | .raw query => .ok (if Text.allBlank query then none else some (.raw query))
  | .nested clauses => do
    let parts ← partsOf schema config clauses
    return (ofParts? parts).map .group

/-- The queries of clauses, without those that have none. -/
def partsOf (schema : Schema) (config : Config) :
    List (Joined Predicate) → Except Error (List (Joined Query))
  | [] => .ok []
  | clause :: clauses => do
    let part ← partOf? schema config clause
    let parts ← partsOf schema config clauses
    return part.toList ++ parts

/-- The query of a clause, joined as the clause is. -/
def partOf? (schema : Schema) (config : Config) :
    Joined Predicate → Except Error (Option (Joined Query))
  | { junction, predicate } => do
    let query ← ofPredicate? schema config predicate
    return query.map fun query => { junction, predicate := query }

end

/-- The query of a list of clauses. Without any clause that says something, it is every
document. -/
def ofClauses (schema : Schema) (config : Config) (clauses : List Clause) : Except Error Query := do
  let parts ← partsOf schema config clauses
  return (ofParts? parts).getD .everything

end Query

end FullText
