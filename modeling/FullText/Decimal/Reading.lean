import FullText.Decimal.Shortest
import FullText.Text.Case

/-!
Numbers read from text. A floating-point number is an optional sign and then a decimal with an
optional exponent, or a word for infinity or for no number; an integer is an optional sign and
digits, and has to fit in 64 bits.
-/

namespace FullText.Decimal

/-- The number nearest to `digits · 10 ^ exponent`. Decimals beyond the range of the format are cut
off early, so that no power of ten is larger than the text that names it. -/
def nearest (digits : Nat) (exponent : Int) : Float :=
  let top := digitCount digits + exponent
  if digits = 0 ∨ top < -330 then 0
  else if 310 < top then Float.ofBits 0x7FF0000000000000
  else Float.ofScientific digits (decide (exponent < 0)) exponent.natAbs

/-- One or more digits, and nothing else. -/
def readNat? (cs : List Char) : Option Nat :=
  if cs.isEmpty || !cs.all Char.isDigit then none else some (Nat.ofDigitChars 10 cs 0)

/-- Digits after an optional sign. -/
def readSigned? : List Char → Option Int
  | '-' :: cs => (readNat? cs).map fun n => -(n : Int)
  | '+' :: cs => (readNat? cs).map Int.ofNat
  | cs => (readNat? cs).map Int.ofNat

/-- What follows the digits of a decimal: nothing, or an exponent. -/
def readExponent? : List Char → Option Int
  | [] => some 0
  | c :: cs => if c = 'e' ∨ c = 'E' then readSigned? cs else none

/-- A decimal without a sign. A point needs a digit on one of its sides. -/
def readDecimal? (cs : List Char) : Option Float := do
  let whole := cs.takeWhile Char.isDigit
  let rest := cs.dropWhile Char.isDigit
  let (fraction, rest) := match rest with
    | '.' :: rest => (rest.takeWhile Char.isDigit, rest.dropWhile Char.isDigit)
    | rest => ([], rest)
  let digits ← readNat? (whole ++ fraction)
  let exponent ← readExponent? rest
  return nearest digits (exponent - fraction.length)

/-- A number without a sign. -/
def readMagnitude? (cs : List Char) : Option Float :=
  match String.ofList (cs.map Char.toLower) with
  | "inf" | "infinity" => some (Float.ofBits 0x7FF0000000000000)
  | "nan" => some (Float.ofBits 0x7FF8000000000000)
  | _ => readDecimal? cs

/-- The floating-point number that a text names. -/
def readFloat? (s : String) : Option Float :=
  match s.toList with
  | '-' :: cs => (readMagnitude? cs).map (- ·)
  | '+' :: cs => readMagnitude? cs
  | cs => readMagnitude? cs

def int64Min : Int :=
  -9223372036854775808

def int64Max : Int :=
  9223372036854775807

def fitsInt64 (n : Int) : Bool :=
  int64Min ≤ n && n ≤ int64Max

/-- The integer of 64 bits that a text names. -/
def readInt64? (s : String) : Option Int :=
  (readSigned? s.toList).filter fitsInt64

end FullText.Decimal
