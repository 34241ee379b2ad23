import FullText.Decimal.Layout

/-!
JSON values and their compact text. Members keep their order; a text keeps every character, but for
quotes, backslashes and control characters, which are escaped.
-/

namespace FullText

/-- A JSON value, with integers and floating-point numbers told apart. -/
inductive Json where
  | null
  | bool (b : Bool)
  | int (n : Int)
  | float (x : Float)
  | text (s : String)
  | array (items : List Json)
  | object (members : List (String × Json))

namespace Json

/-- Numbers in JSON: positional from `0.00001` up to sixteen digits and scientific beyond, and an
integral value in positional form keeps a zero after the point. -/
def numberLayout : Decimal.Layout where
  positional := some (-5, 15)
  keepsFraction := true
  tie := .toEven

/-- Two lower-case hexadecimal digits. -/
def hexByte (n : Nat) : List Char :=
  [Nat.digitChar (n / 16), Nat.digitChar (n % 16)]

/-- One character inside a JSON text. -/
def escapedChar (c : Char) : List Char :=
  match c with
  | '"' => ['\\', '"']
  | '\\' => ['\\', '\\']
  | '\n' => ['\\', 'n']
  | '\r' => ['\\', 'r']
  | '\t' => ['\\', 't']
  | '\x08' => ['\\', 'b']
  | '\x0c' => ['\\', 'f']
  | c => if c.toNat < 0x20 then '\\' :: 'u' :: '0' :: '0' :: hexByte c.toNat else [c]

def textLiteral (s : String) : String :=
  "\"" ++ String.ofList (s.toList.flatMap escapedChar) ++ "\""

mutual

/-- The compact text of a value. What is not a finite number is written as null. -/
def compact : Json → String
  | .null => "null"
  | .bool b => if b then "true" else "false"
  | .int n => toString n
  | .float x => if x.isFinite then numberLayout.text x else "null"
  | .text s => textLiteral s
  | .array items => "[" ++ String.intercalate "," (compactItems items) ++ "]"
  | .object members => "\x7b" ++ String.intercalate "," (compactMembers members) ++ "\x7d"

def compactItems : List Json → List String
  | [] => []
  | item :: items => item.compact :: compactItems items

def compactMembers : List (String × Json) → List String
  | [] => []
  | (name, value) :: members =>
    (textLiteral name ++ ":" ++ value.compact) :: compactMembers members

end

def texts (items : List String) : Json :=
  .array (items.map .text)

/-- A value that may be missing; a missing one is null. -/
def optional {α : Type} (f : α → Json) : Option α → Json
  | none => .null
  | some a => f a

end Json

end FullText
