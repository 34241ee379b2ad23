import FullText.Decimal.Layout
import FullText.Predicate

/-!
Queries in the language of the store, as trees. The text of a query joins units by a space where all
have to hold and by ` | ` where one has to; the bar binds loosest, so a unit that is itself such a
list stands in parentheses.
-/

namespace FullText

/-- A number in a query. -/
inductive Numeral where
  | int (n : Int)
  | float (x : Float)

/-- The text of a number. -/
def Numeral.text : Numeral → String
  | .int n => toString n
  | .float x => Decimal.text x

/-- An end of a range. -/
inductive Bound where
  /-- Below every number. -/
  | bottom
  /-- Above every number. -/
  | top
  | inclusive (n : Numeral)
  | exclusive (n : Numeral)

/-- The text of an end: an excluded number has a parenthesis in front of it, at either end. -/
def Bound.text : Bound → String
  | .bottom => "-inf"
  | .top => "+inf"
  | .inclusive n => n.text
  | .exclusive n => "(" ++ n.text

/-- The characters that have a meaning in queries. -/
def specialChars : List Char :=
  ['@', ':', '|', '(', ')', '[', ']', '{', '}', '*', '%', '-', '+', ' ', '\\', '"', '\'', ',',
    '.', '<', '>', ';', '!', '~', '$', '&', '/', '=', '^', '#']

/-- Puts a backslash before every character of a class. -/
def escapeWhere (special : Char → Bool) : List Char → List Char
  | [] => []
  | c :: cs =>
    if special c then '\\' :: c :: escapeWhere special cs else c :: escapeWhere special cs

/-- A text as a single term: every character with a meaning is escaped, the space included. -/
def escapedTerm (s : String) : String :=
  String.ofList (escapeWhere (fun c => specialChars.contains c) s.toList)

/-- A text as an exact phrase: between quotes, with quotes and backslashes escaped. -/
def phraseText (s : String) : String :=
  "\"" ++ String.ofList (escapeWhere (fun c => c == '"' || c == '\\') s.toList) ++ "\""

/-- What a query asks of one field. -/
inductive Condition where
  | phrase (s : String)
  /-- One of several phrases. -/
  | anyPhrase (phrases : List String)
  /-- A term that begins with a text. -/
  | startingWith (stem : String)
  /-- One of several tags. -/
  | anyTag (tags : List String)
  /-- The term that stands for null in a text. -/
  | nullTerm (sentinel : String)
  /-- The tag that stands for null. -/
  | nullTag (sentinel : String)
  | range (low high : Bound)
  /-- A point near another point. -/
  | circle (lon lat radius : Float) (unit : GeoUnit)

/-- The text of a condition. The terms that stand for null are written as they are stored. -/
def Condition.text : Condition → String
  | .phrase s => phraseText s
  | .anyPhrase phrases => "(" ++ String.intercalate " | " (phrases.map phraseText) ++ ")"
  | .startingWith stem => escapedTerm stem ++ "*"
  | .anyTag tags => "\x7b " ++ String.intercalate " | " (tags.map escapedTerm) ++ " \x7d"
  | .nullTerm sentinel => sentinel
  | .nullTag sentinel => "\x7b " ++ sentinel ++ " \x7d"
  | .range low high => "[" ++ low.text ++ " " ++ high.text ++ "]"
  | .circle lon lat radius unit =>
    "[" ++ Decimal.text lon ++ " " ++ Decimal.text lat ++ " " ++ Decimal.text radius ++ " " ++
      unit.keyword ++ "]"

/-- A query. -/
inductive Query where
  /-- Every document. -/
  | everything
  /-- Text that is passed on as it is. -/
  | raw (text : String)
  | field (name : String) (condition : Condition)
  | not (query : Query)
  /-- A query in parentheses. -/
  | group (query : Query)
  /-- All of several queries. -/
  | all (queries : List Query)
  /-- One of several queries. -/
  | any (queries : List Query)

namespace Query

mutual

def text : Query → String
  | .everything => "*"
  | .raw text => text
  | .field name condition => "@" ++ name ++ ":" ++ condition.text
  | .not query => "-" ++ query.text
  | .group query => "(" ++ query.text ++ ")"
  | .all queries => String.intercalate " " (texts queries)
  | .any queries => String.intercalate " | " (texts queries)

def texts : List Query → List String
  | [] => []
  | query :: queries => query.text :: texts queries

end

end Query

end FullText
