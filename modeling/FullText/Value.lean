import FullText.Decimal.Layout
import FullText.Decimal.Reading
import FullText.Json
import FullText.Text.Blank

/-!
The values that predicates compare with and rows carry. A member of an enumeration stands for its
backing value, or for its name if it has none; `Value.resolved` replaces every such member, and all
other readings of a value start from there.
-/

namespace FullText

/-- A scalar, the absence of one, a list, or a member of an enumeration. -/
inductive Value where
  | null
  | bool (b : Bool)
  | int (n : Int)
  | float (x : Float)
  | text (s : String)
  | list (items : List Value)
  /-- A member of an enumeration without backing values. -/
  | member (name : String)
  /-- A member of an enumeration with the value that it stands for. -/
  | backed (name : String) (backing : Value)

namespace Value

mutual

/-- The value with every member of an enumeration replaced by what it stands for. -/
def resolved : Value → Value
  | .null => .null
  | .bool b => .bool b
  | .int n => .int n
  | .float x => .float x
  | .text s => .text s
  | .list items => .list (resolvedItems items)
  | .member name => .text name
  | .backed _ backing => backing.resolved

def resolvedItems : List Value → List Value
  | [] => []
  | item :: items => item.resolved :: resolvedItems items

end

/-- Whether the value is null itself; a member backed by null is not. -/
def isNull : Value → Bool
  | .null => true
  | _ => false

/-- The number that a value is, or that its text names after the blanks around it are cut off. A
text names finite numbers only. -/
def toFloat? (v : Value) : Option Float :=
  match v.resolved with
  | .int n => some (Float.ofInt n)
  | .float x => some x
  | .text s => (Decimal.readFloat? (Text.trim s)).filter Float.isFinite
  | _ => none

/-- The text of a scalar; null and lists have none. -/
def render? (v : Value) : Option String :=
  match v.resolved with
  | .bool b => some (if b then "1" else "0")
  | .int n => some (toString n)
  | .float x => some (Decimal.text x)
  | .text s => some s
  | _ => none

/-- The text between the items of a list that is written to a document. -/
def listSeparator : String :=
  ","

/-- The text that is written to a document. Null is written as the sentinel, and a list as its
scalars; an item that is null or a list itself is left out. -/
def wireText (nullSentinel : String) (v : Value) : String :=
  match v.resolved with
  | .null => nullSentinel
  | .list items => String.intercalate listSeparator (items.filterMap render?)
  | scalar => scalar.render?.getD ""

mutual

/-- The JSON form. Scalars stand for themselves, a member of an enumeration for an object. -/
def toJson : Value → Json
  | .null => .null
  | .bool b => .bool b
  | .int n => .int n
  | .float x => .float x
  | .text s => .text s
  | .list items => .array (toJsonItems items)
  | .member name => .object [("name", .text name), ("backing", .null)]
  | .backed name backing => .object [("name", .text name), ("backing", backing.toJson)]

def toJsonItems : List Value → List Json
  | [] => []
  | item :: items => item.toJson :: toJsonItems items

end

end Value

end FullText
