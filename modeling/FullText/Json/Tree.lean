import FullText.Decimal.Reading

/-!
JSON read from text. The text is split into tokens and the tokens are read as one value
with nothing after it. Numbers keep their spelling. A quoted text may spell half of a surrogate
pair: it is well formed, and can be passed over, but stands for no text.
-/

namespace FullText

/-- A JSON value as it was read. -/
inductive JsonTree where
  | null
  | bool (b : Bool)
  | number (spelling : List Char)
  | text (s : Option String)
  | array (items : List JsonTree)
  | object (members : List (Option String × JsonTree))

namespace JsonTree

/-- A token of a JSON text. -/
inductive Token where
  /-- A bracket, a brace, a colon or a comma. -/
  | mark (c : Char)
  /-- A run of letters, digits, signs and points. -/
  | word (cs : List Char)
  /-- A quoted text as code points and, where it is escaped so, 16-bit units. -/
  | text (units : List Nat)

/-- What the tokenizer is in the middle of; what it has read so far is kept in reverse. -/
inductive Mode where
  | between
  | word (cs : List Char)
  | text (units : List Nat)
  | escape (units : List Nat)
  /-- After `\u` with some of the four hexadecimal digits to go. -/
  | unit (units : List Nat) (value toGo : Nat)

/-- The white space of JSON. -/
def isSpace (c : Char) : Bool :=
  c == ' ' || c == '\n' || c == '\t' || c == '\r'

/-- The characters that stand alone. -/
def isMark (c : Char) : Bool :=
  c == '[' || c == ']' || c == '{' || c == '}' || c == ':' || c == ','

/-- The characters of numbers and of the words `null`, `true` and `false`. -/
def isWordChar (c : Char) : Bool :=
  c.isAlphanum || c == '+' || c == '-' || c == '.'

/-- The value of a hexadecimal digit. -/
def hexValue? (c : Char) : Option Nat :=
  if c.isDigit then some (c.toNat - '0'.toNat)
  else if 'a' ≤ c && c ≤ 'f' then some (c.toNat - 'a'.toNat + 10)
  else if 'A' ≤ c && c ≤ 'F' then some (c.toNat - 'A'.toNat + 10)
  else none

/-- The character that a one-letter escape stands for. -/
def escaped? : Char → Option Char
  | '"' => some '"'
  | '\\' => some '\\'
  | '/' => some '/'
  | 'b' => some '\x08'
  | 'f' => some '\x0c'
  | 'n' => some '\n'
  | 'r' => some '\r'
  | 't' => some '\t'
  | _ => none

/-- The tokens that end or begin with a character outside quotes, and what is begun after it. -/
def step? (c : Char) : Option (List Token × Mode) :=
  if isSpace c then some ([], .between)
  else if isMark c then some ([.mark c], .between)
  else if isWordChar c then some ([], .word [c])
  else if c = '"' then some ([], .text [])
  else none

/-- The tokens of a text, if it can be split into tokens. -/
def tokens? : Mode → List Char → Option (List Token)
  | .between, [] => some []
  | .word cs, [] => some [.word cs.reverse]
  | _, [] => none
  | .between, c :: rest => do
    let (found, mode) ← step? c
    return found ++ (← tokens? mode rest)
  | .word cs, c :: rest =>
    if isWordChar c then
      tokens? (.word (c :: cs)) rest
    else do
      let (found, mode) ← step? c
      return .word cs.reverse :: found ++ (← tokens? mode rest)
  | .text units, c :: rest =>
    if c = '"' then do return .text units.reverse :: (← tokens? .between rest)
    else if c = '\\' then tokens? (.escape units) rest
    else if c.toNat < 0x20 then none
    else tokens? (.text (c.toNat :: units)) rest
  | .escape units, c :: rest =>
    if c = 'u' then
      tokens? (.unit units 0 3) rest
    else do
      let plain ← escaped? c
      tokens? (.text (plain.toNat :: units)) rest
  | .unit units value toGo, c :: rest => do
    let digit ← hexValue? c
    let value := 16 * value + digit
    match toGo with
    | 0 => tokens? (.text (value :: units)) rest
    | toGo + 1 => tokens? (.unit units value toGo) rest

/-- The characters that code points and paired 16-bit units stand for; a unit without its partner
stands for none. -/
def decodeUnits? : List Nat → Option (List Char)
  | [] => some []
  | [unit] => if 0xD800 ≤ unit ∧ unit < 0xE000 then none else some [Char.ofNat unit]
  | unit :: next :: rest =>
    if 0xD800 ≤ unit ∧ unit < 0xDC00 then
      if 0xDC00 ≤ next ∧ next < 0xE000 then do
        let c := Char.ofNat (0x10000 + (unit - 0xD800) * 0x400 + (next - 0xDC00))
        return c :: (← decodeUnits? rest)
      else none
    else if 0xDC00 ≤ unit ∧ unit < 0xE000 then none
    else do return Char.ofNat unit :: (← decodeUnits? (next :: rest))

/-- The text that a quoted text stands for. -/
def decodeText? (units : List Nat) : Option String :=
  (decodeUnits? units).map String.ofList

/-- Digits without a needless zero in front. -/
def isNatural (cs : List Char) : Bool :=
  !cs.isEmpty && cs.all Char.isDigit && (cs.head? != some '0' || cs.length == 1)

/-- What may follow the digits of a number: an exponent, or nothing. -/
def isExponent : List Char → Bool
  | [] => true
  | c :: rest =>
    let digits := match rest with
      | '+' :: digits => digits
      | '-' :: digits => digits
      | digits => digits
    (c == 'e' || c == 'E') && !digits.isEmpty && digits.all Char.isDigit

/-- Whether a word is a number without a sign. -/
def isUnsignedNumber (cs : List Char) : Bool :=
  isNatural (cs.takeWhile Char.isDigit) &&
    match cs.dropWhile Char.isDigit with
    | '.' :: rest =>
      !(rest.takeWhile Char.isDigit).isEmpty && isExponent (rest.dropWhile Char.isDigit)
    | rest => isExponent rest

/-- Whether a word is a number. -/
def isNumber : List Char → Bool
  | '-' :: cs => isUnsignedNumber cs
  | cs => isUnsignedNumber cs

/-- The value that a word stands for. -/
def ofWord? (cs : List Char) : Option JsonTree :=
  if cs = "null".toList then some .null
  else if cs = "true".toList then some (.bool true)
  else if cs = "false".toList then some (.bool false)
  else if isNumber cs then some (.number cs)
  else none

mutual

/-- Reads a value from the front of a list of tokens. -/
def readValue : (depth : Nat) → List Token → Option (JsonTree × List Token)
  | 0, _ => none
  | _ + 1, .word cs :: rest => (ofWord? cs).map (·, rest)
  | _ + 1, .text units :: rest => some (.text (decodeText? units), rest)
  | _ + 1, .mark '[' :: .mark ']' :: rest => some (.array [], rest)
  | depth + 1, .mark '[' :: rest => do
    let (items, rest) ← readItems depth rest
    return (.array items, rest)
  | _ + 1, .mark '{' :: .mark '}' :: rest => some (.object [], rest)
  | depth + 1, .mark '{' :: rest => do
    let (members, rest) ← readMembers depth rest
    return (.object members, rest)
  | _ + 1, _ => none

/-- Reads the items of an array up to its closing bracket. -/
def readItems : (depth : Nat) → List Token → Option (List JsonTree × List Token)
  | 0, _ => none
  | depth + 1, tokens => do
    let (item, rest) ← readValue depth tokens
    match rest with
    | .mark ',' :: rest =>
      let (items, rest) ← readItems depth rest
      return (item :: items, rest)
    | .mark ']' :: rest => return ([item], rest)
    | _ => none

/-- Reads the members of an object up to its closing brace. -/
def readMembers : (depth : Nat) → List Token → Option (List (Option String × JsonTree) × List Token)
  | 0, _ => none
  | depth + 1, .text units :: .mark ':' :: rest => do
    let (value, rest) ← readValue depth rest
    let member := (decodeText? units, value)
    match rest with
    | .mark ',' :: rest =>
      let (members, rest) ← readMembers depth rest
      return (member :: members, rest)
    | .mark '}' :: rest => return ([member], rest)
    | _ => none
  | _ + 1, _ => none

end

/-- The value that a text spells. Between two nested calls of the readers at least one token is
consumed, so twice the number of tokens bounds the depth. -/
def read? (s : String) : Option JsonTree := do
  let tokens ← tokens? .between s.toList
  match ← readValue (2 * tokens.length + 2) tokens with
  | (tree, []) => return tree
  | _ => none

/-- The values of a record with the given field names: the members of an object, whose other members
are passed over, or the items of an array in the order of the names. A name may be missing; it may
not come twice, and there may be no more items than names. -/
def record? (names : List String) : JsonTree → Option (List (Option JsonTree))
  | .array items =>
    if items.length ≤ names.length then some (names.zipIdx.map fun (_, i) => items[i]?) else none
  | .object members =>
    let under (name : String) := members.filter fun member => member.1 == some name
    if members.all (·.1.isSome) && names.all fun name => (under name).length ≤ 1 then
      some (names.map fun name => (under name).head?.map (·.2))
    else none
  | _ => none

/-- The text of a value that is one. -/
def text? : JsonTree → Option String
  | .text s => s
  | _ => none

/-- The word that a value names: a text, or the name of the only member of an object, if that member
is null. -/
def word? : JsonTree → Option String
  | .text s => s
  | .object [(name, .null)] => name
  | _ => none

/-- The truth value that a value is. -/
def bool? : JsonTree → Option Bool
  | .bool b => some b
  | _ => none

/-- The number nearest to the decimal that a value spells. -/
def float? : JsonTree → Option Float
  | .number cs => Decimal.readFloat? (String.ofList cs)
  | _ => none

/-- The natural number below a bound that a value is, if it is spelled with digits only. -/
def natBelow? (bound : Nat) : JsonTree → Option Nat
  | .number cs => (Decimal.readNat? cs).filter (· < bound)
  | _ => none

/-- A value that may be null or missing. -/
def nullable? {α : Type} (read : JsonTree → Option α) : Option JsonTree → Option (Option α)
  | none | some .null => some none
  | some value => (read value).map some

/-- A value that may be missing and then has a usual value. -/
def withDefault? {α : Type} (usual : α) (read : JsonTree → Option α) : Option JsonTree → Option α
  | none => some usual
  | some value => read value

end JsonTree

end FullText
