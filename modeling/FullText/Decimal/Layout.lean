import FullText.Decimal.Shortest

/-!
How the shortest decimal of a number is written. A `Layout` holds the decisions of one format; the
positional form puts the point among the digits, the scientific form after the first digit.
-/

namespace FullText.Decimal

/-- The decisions of a text format for numbers. -/
structure Layout where
  /-- The least and the greatest exponent of the leading digit for which the positional form is
  used; without bounds it is always used. -/
  positional : Option (Int × Int)
  /-- Whether the positional form of an integral value ends in `.0`. -/
  keepsFraction : Bool
  /-- Which of two equally near shortest decimals is written. -/
  tie : Tie

/-- The digits with the decimal point among them. -/
def positionalText (keepsFraction : Bool) (digits : List Char) (exponent : Int) : List Char :=
  let zeros (n : Int) := List.replicate n.toNat '0'
  let whole := digits.length + exponent
  if 0 ≤ exponent then
    digits ++ zeros exponent ++ if keepsFraction then ['.', '0'] else []
  else if 0 < whole then
    digits.take whole.toNat ++ '.' :: digits.drop whole.toNat
  else
    '0' :: '.' :: zeros (-whole) ++ digits

/-- The digits with the decimal point after the first, and the exponent of the first with its
sign. -/
def scientificText (digits : List Char) (leading : Int) : List Char :=
  let fraction := match digits.drop 1 with
    | [] => []
    | rest => '.' :: rest
  digits.take 1 ++ fraction ++ 'e' :: (if leading < 0 then '-' else '+') ::
    Nat.toDigits 10 leading.natAbs

namespace Layout

/-- A positive or zero magnitude in the layout. -/
def magnitudeText (layout : Layout) (x : Magnitude) : List Char :=
  if x.significand = 0 then
    positionalText layout.keepsFraction ['0'] 0
  else
    let d := x.shortest layout.tie
    let digits := Nat.toDigits 10 d.digits
    let leading := digits.length + d.exponent - 1
    let inBounds := match layout.positional with
      | none => true
      | some (least, greatest) => least ≤ leading && leading ≤ greatest
    if inBounds then positionalText layout.keepsFraction digits d.exponent
    else scientificText digits leading

/-- A finite number in the layout; negative zero keeps its sign. -/
def text (layout : Layout) (x : Float) : String :=
  let bits := x.toBits
  let sign := if bits >>> 63 = 0 then [] else ['-']
  String.ofList (sign ++ layout.magnitudeText (Magnitude.ofBits bits))

end Layout

/-- Numbers in commands and queries: always positional, without a fraction if they are integral. -/
def plain : Layout where
  positional := none
  keepsFraction := false
  tie := .up

def text (x : Float) : String :=
  if x.isNaN then "NaN"
  else if x.isInf then (if x < 0 then "-inf" else "inf")
  else plain.text x

end FullText.Decimal
