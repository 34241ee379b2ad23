import FullText.Decimal.Shortest

/-!
Spans of time in whole nanoseconds, and their product with a floating-point factor.
-/

namespace FullText

/-- A span of time. -/
structure Duration where
  nanos : Nat
deriving DecidableEq, Repr

/-- A quotient rounded to the nearest integer, and from half way to the even one. -/
def roundHalfEven (num den : Nat) : Nat :=
  let low := num / den
  match compare (2 * (num % den)) den with
  | .lt => low
  | .gt => low + 1
  | .eq => if low % 2 = 0 then low else low + 1

namespace Duration

def nanosPerSecond : Nat :=
  1000000000

def nanosPerMilli : Nat :=
  1000000

def ofMillis (n : Nat) : Duration :=
  { nanos := n * nanosPerMilli }

/-- The span in seconds, up to the precision of floating-point numbers. -/
def seconds (d : Duration) : Float :=
  Float.ofNat (d.nanos / nanosPerSecond) + Float.ofNat (d.nanos % nanosPerSecond) / 1e9

/-- The span of a number of seconds, to the nearest nanosecond. Negative numbers, and numbers whose
seconds do not fit in 64 bits, are no span. -/
def ofSeconds? (x : Float) : Option Duration :=
  if !x.isFinite || x < 0 then
    none
  else
    let m := Decimal.Magnitude.ofBits (x.toBits &&& 0x7FFFFFFFFFFFFFFF)
    let num := m.significand * Nat.pow 2 m.exponent.toNat
    let den := Nat.pow 2 (-m.exponent).toNat
    if UInt64.size * den ≤ num then none
    else some { nanos := roundHalfEven (num * nanosPerSecond) den }

/-- The span multiplied by a factor, if the product is a span. -/
def scale? (d : Duration) (factor : Float) : Option Duration :=
  ofSeconds? (factor * d.seconds)

def shorter (a b : Duration) : Duration :=
  if a.nanos ≤ b.nanos then a else b

/-- The milliseconds after which a timer that ticks every millisecond has waited for the span. -/
def ticks (d : Duration) : Nat :=
  (d.nanos + (nanosPerMilli - 1)) / nanosPerMilli

end Duration

end FullText
