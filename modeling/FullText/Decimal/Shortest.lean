/-!
The shortest decimal of a floating-point number: of the decimals with the fewest digits among those
that read back as the number, the nearest one. Selection works on exact integers. How the digits are
laid out is decided elsewhere.
-/

namespace FullText.Decimal

/-- A positive number `significand · 2 ^ exponent` of the 64-bit format. -/
structure Magnitude where
  significand : Nat
  exponent : Int
  /-- Whether the gap to the number below is half the gap to the number above. -/
  narrowBelow : Bool

/-- The magnitude that the bits of a finite number stand for. -/
def Magnitude.ofBits (bits : UInt64) : Magnitude :=
  let exponent := ((bits >>> 52) &&& 0x7FF).toNat
  let fraction := (bits &&& 0xFFFFFFFFFFFFF).toNat
  if exponent = 0 then
    { significand := fraction, exponent := -1074, narrowBelow := false }
  else
    { significand := 0x10000000000000 + fraction
      exponent := exponent - 1075
      narrowBelow := fraction == 0 && exponent > 1 }

/-- The decimal number `digits · 10 ^ exponent`. -/
structure Digits where
  digits : Nat
  exponent : Int
deriving DecidableEq

/-- Which of two equally near decimals is taken. -/
inductive Tie where
  | toEven
  | up

def digitCount (n : Nat) : Nat :=
  (Nat.toDigits 10 n).length

namespace Magnitude

def scale (x : Magnitude) : Int :=
  let down := Nat.pow 2 (-x.exponent).toNat
  if 0 ≤ x.exponent then digitCount (x.significand * Nat.pow 2 x.exponent.toNat)
  else if down ≤ x.significand then digitCount (x.significand / down)
  else 1 - (digitCount ((down - 1) / x.significand) : Int)

/-- Compares `digits · 10 ^ power` with `bound · 2 ^ (exponent - 2)`. -/
def compareQuarters (x : Magnitude) (d : Digits) (bound : Nat) : Ordering :=
  let shift := x.exponent - 2
  compare (d.digits * Nat.pow 10 d.exponent.toNat * Nat.pow 2 (-shift).toNat)
    (bound * Nat.pow 2 shift.toNat * Nat.pow 10 (-d.exponent).toNat)

/-- Whether a decimal lies among the real numbers that round to the magnitude: those nearer to it
than to its neighbours, and the two half-way points if the significand is even. -/
def readsBack (x : Magnitude) (d : Digits) : Bool :=
  let below := x.compareQuarters d (4 * x.significand - if x.narrowBelow then 1 else 2)
  let above := x.compareQuarters d (4 * x.significand + 2)
  let ends := x.significand % 2 == 0
  (below == .gt || (ends && below == .eq)) && (above == .lt || (ends && above == .eq))

/-- The decimal on the grid of `10 ^ power` that reads back as the magnitude, if there is one. Only
the two grid points around the magnitude can; of two, the nearer is taken. -/
def onGrid? (x : Magnitude) (tie : Tie) (power : Int) : Option Digits :=
  let num := x.significand * Nat.pow 2 x.exponent.toNat * Nat.pow 10 (-power).toNat
  let den := Nat.pow 2 (-x.exponent).toNat * Nat.pow 10 power.toNat
  let low : Digits := { digits := num / den, exponent := power }
  let high : Digits := { digits := num / den + 1, exponent := power }
  match x.readsBack low, x.readsBack high with
  | true, false => some low
  | false, true => some high
  | false, false => none
  | true, true =>
    match compare (2 * num) ((2 * low.digits + 1) * den), tie with
    | .lt, _ => some low
    | .gt, _ => some high
    | .eq, .up => some high
    | .eq, .toEven => some (if low.digits % 2 = 0 then low else high)

def exact (x : Magnitude) : Digits :=
  { digits := x.significand * Nat.pow 2 x.exponent.toNat * Nat.pow 5 (-x.exponent).toNat
    exponent := min x.exponent 0 }

/-- The shortest decimal that reads back as the magnitude. Seventeen digits suffice for the format,
so the exact value is never needed; a power of ten above the magnitude counts as no digits. -/
def shortest (x : Magnitude) (tie : Tie) : Digits :=
  ((List.range 18).findSome? fun (count : Nat) => x.onGrid? tie (x.scale - count)).getD x.exact

end Magnitude

end FullText.Decimal
