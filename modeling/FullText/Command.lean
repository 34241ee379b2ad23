import FullText.Decimal.Layout
import FullText.Decimal.Reading
import FullText.Json

/-!
Commands of the store: a name and a flat list of arguments. Numbers stay numbers until they are
written out.
-/

namespace FullText

/-- One argument of a command. -/
inductive Arg where
  | text (s : String)
  | int (n : Int)
  | float (x : Float)

namespace Arg

/-- A count, cut off at the greatest integer that the store knows. -/
def count (n : Nat) : Arg :=
  .int (min (n : Int) Decimal.int64Max)

/-- The argument as it goes to the store. -/
def wireText : Arg → String
  | .text s => s
  | .int n => toString n
  | .float x => Decimal.text x

def isText (arg : Arg) (s : String) : Bool :=
  arg.wireText == s

def toJson : Arg → Json
  | .text s => .text s
  | .int n => .int n
  | .float x => .float x

end Arg

/-- A command with its arguments in order. -/
structure Command where
  name : String
  args : List Arg

namespace Command

def ofTexts (name : String) (args : List String) : Command :=
  { name, args := args.map .text }

def argTexts (c : Command) : List String :=
  c.args.map Arg.wireText

def text (c : Command) : String :=
  String.intercalate " " (c.name :: c.argTexts)

def toJson (c : Command) : Json :=
  .object [("name", .text c.name), ("args", .array (c.args.map Arg.toJson))]

end Command

end FullText
