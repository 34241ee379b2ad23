import FullText.Text.Blank
import FullText.Text.Case
import FullText.Value

/-!
Predicates of a search request. A predicate does not know the type of the field it tests: the same
comparison becomes a phrase, a numeric range or a set of tags when the request is compiled.
-/

namespace FullText

/-- The operators of comparisons. -/
inductive Operator where
  | eq
  | ne
  | gt
  | gte
  | lt
  | lte
  | like
deriving DecidableEq, Repr

namespace Operator

/-- The usual spelling of an operator. -/
def symbol : Operator → String
  | .eq => "="
  | .ne => "<>"
  | .gt => ">"
  | .gte => ">="
  | .lt => "<"
  | .lte => "<="
  | .like => "like"

def name : Operator → String
  | .eq => "Eq"
  | .ne => "Ne"
  | .gt => "Gt"
  | .gte => "Gte"
  | .lt => "Lt"
  | .lte => "Lte"
  | .like => "Like"

/-- The operator that a symbol spells, apart from case and the blanks around it. -/
def ofSymbol? (symbol : String) : Option Operator :=
  match Text.lowerAscii (Text.trim symbol) with
  | "=" | "==" => some .eq
  | "<>" | "!=" => some .ne
  | ">" => some .gt
  | ">=" => some .gte
  | "<" => some .lt
  | "<=" => some .lte
  | "like" => some .like
  | _ => none

end Operator

/-- How a clause joins the clauses before it. -/
inductive Junction where
  | and
  | or
deriving DecidableEq, Repr

/-- The name of a junction in JSON. -/
def Junction.name : Junction → String
  | .and => "And"
  | .or => "Or"

/-- The units of distances on the earth. -/
inductive GeoUnit where
  | m
  | km
  | mi
  | ft
deriving DecidableEq, Repr

namespace GeoUnit

def keyword : GeoUnit → String
  | .m => "m"
  | .km => "km"
  | .mi => "mi"
  | .ft => "ft"

def name : GeoUnit → String
  | .m => "M"
  | .km => "Km"
  | .mi => "Mi"
  | .ft => "Ft"

end GeoUnit

/-- What a predicate asks of one field. -/
inductive Test where
  | compare (operator : Operator) (value : Value)
  | isIn (values : List Value)
  | notIn (values : List Value)
  | isNull
  | notNull
  | between (low high : Value)
  | notBetween (low high : Value)
  | near (lon lat radius : Float) (unit : GeoUnit)
  /-- A comparison whose symbol is no operator. It is kept, so that compiling it can say so. -/
  | unknown (symbol : String) (value : Value)

/-- The name of a test in error messages. -/
def Test.operatorName : Test → String
  | .compare operator _ => operator.symbol
  | .isIn _ => "in"
  | .notIn _ => "not in"
  | .isNull => "null"
  | .notNull => "not null"
  | .between .. => "between"
  | .notBetween .. => "not between"
  | .near .. => "geo radius"
  | .unknown symbol _ => Text.trim symbol

/-- Something with the way it joins what comes before it. -/
structure Joined (α : Type) where
  junction : Junction
  predicate : α

/-- A condition on documents. -/
inductive Predicate where
  | test (column : String) (asked : Test)
  /-- Query text that is passed on as it is. -/
  | raw (query : String)
  /-- A list of clauses in parentheses. -/
  | nested (clauses : List (Joined Predicate))

/-- A predicate with the way it joins the clauses before it. -/
abbrev Clause :=
  Joined Predicate

namespace Predicate

/-- The column that a predicate tests. -/
def column? : Predicate → Option String
  | .test column _ => some column
  | _ => none

/-- The name of a predicate in error messages. -/
def operatorName : Predicate → String
  | .test _ asked => asked.operatorName
  | .raw _ => "raw"
  | .nested _ => "nested"

/-- A comparison by the symbol of its operator. -/
def compare (symbol column : String) (value : Value) : Predicate :=
  match Operator.ofSymbol? symbol with
  | some operator => .test column (.compare operator value)
  | none => .test column (.unknown symbol value)

/-- The JSON form of a test: the name of its variant, and the column with the operands. -/
def testJson (column : String) (asked : Test) : Json :=
  let variant (name : String) (members : List (String × Json)) : Json :=
    .object [(name, .object (("column", .text column) :: members))]
  let range (low high : Value) (negated : Bool) : Json :=
    variant "Between" [("low", low.toJson), ("high", high.toJson), ("negated", .bool negated)]
  match asked with
  | .compare operator value =>
    variant "Comparison" [("operator", .text operator.name), ("value", value.toJson)]
  | .isIn values => variant "In" [("values", .array (values.map Value.toJson))]
  | .notIn values => variant "NotIn" [("values", .array (values.map Value.toJson))]
  | .isNull => variant "Null" []
  | .notNull => variant "NotNull" []
  | .between low high => range low high false
  | .notBetween low high => range low high true
  | .near lon lat radius unit =>
    variant "GeoRadius" [("lon", .float lon), ("lat", .float lat), ("radius", .float radius),
      ("unit", .text unit.name)]
  | .unknown symbol value =>
    variant "UnknownOperator" [("symbol", .text symbol), ("value", value.toJson)]

mutual

def toJson : Predicate → Json
  | .test column asked => testJson column asked
  | .raw query => .object [("Raw", .text query)]
  | .nested clauses => .object [("Nested", .array (clausesJson clauses))]

/-- The JSON forms of clauses. -/
def clausesJson : List (Joined Predicate) → List Json
  | [] => []
  | clause :: clauses => clauseJson clause :: clausesJson clauses

/-- The JSON form of a clause. -/
def clauseJson : Joined Predicate → Json
  | { junction, predicate } =>
    .object [("boolean", .text junction.name), ("predicate", predicate.toJson)]

end

end Predicate

end FullText
