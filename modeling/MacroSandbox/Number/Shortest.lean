/-! The shortest decimal that reads back as a given binary number.

A finite number `significand * 2 ^ exponent` is the nearest floating-point number to every real in
an interval around it. Among the decimals in that interval the ones with the fewest digits are the
shortest; of two with equally many digits the nearer one is taken, and of two equally near ones the
larger. -/

namespace MacroSandbox.Shortest

/-- A decimal `0.d₁d₂… * 10 ^ point`: its digits as one number, and the position of the decimal
point counted from the first digit. -/
structure Decimal where
  digits : String
  point : Int
  deriving Repr, DecidableEq

/-- The interval of reals that round to a number, and the number itself, over one denominator. -/
structure Interval where
  low : Nat
  value : Nat
  high : Nat
  denominator : Nat
  closed : Bool

namespace Interval

/-- The interval around `significand * 2 ^ exponent`, which is taken to be positive. Below a power
of two the spacing of floating-point numbers halves, so the lower gap is half as wide there. -/
def around (significand : Nat) (exponent : Int) : Interval :=
  let scale := Nat.pow 2 (exponent - 2).toNat
  let lowerGap := if significand == 0x10000000000000 && -1074 < exponent then 1 else 2
  { low := (4 * significand - lowerGap) * scale
    value := 4 * significand * scale
    high := (4 * significand + 2) * scale
    denominator := Nat.pow 2 (2 - exponent).toNat
    closed := significand % 2 == 0 }

def holds (interval : Interval) (numerator divisor : Nat) : Bool :=
  let scaled := numerator * interval.denominator
  if interval.closed then
    interval.low * divisor ≤ scaled && scaled ≤ interval.high * divisor
  else
    interval.low * divisor < scaled && scaled < interval.high * divisor

/-- The exponent `point` with `10 ^ (point - 1) ≤ value < 10 ^ point`. -/
def point (interval : Interval) : Int :=
  if interval.denominator ≤ interval.value then
    (toString (interval.value / interval.denominator)).length
  else
    1 - ((toString (interval.denominator / interval.value)).length : Int)

def atLength? (interval : Interval) (count : Nat) : Option Nat :=
  let step := interval.point - count
  let numerator := interval.value * Nat.pow 10 (-step).toNat
  let divisor := interval.denominator * Nat.pow 10 step.toNat
  let below := numerator / divisor
  let twiceRest := 2 * (numerator % divisor)
  let inside (digits : Nat) : Bool :=
    interval.holds (digits * Nat.pow 10 step.toNat) (Nat.pow 10 (-step).toNat)
  match inside below, inside (below + 1) with
  | true, true => some (if divisor ≤ twiceRest then below + 1 else below)
  | true, false => some below
  | false, true => some (below + 1)
  | false, false => none

def shortestFrom (interval : Interval) : (lengths count : Nat) → Nat × Nat
  | 0, count => (count, 1)
  | lengths + 1, count =>
      match interval.atLength? count with
      | some digits => (count, digits)
      | none => interval.shortestFrom lengths (count + 1)

end Interval

def dropZeros (digits : String) : String :=
  String.ofList ((digits.toList.reverse.dropWhile (· == '0')).reverse)

/-- The shortest decimal for `significand * 2 ^ exponent`, which is taken to be positive. Seventeen
digits always suffice. -/
def decimal (significand : Nat) (exponent : Int) : Decimal :=
  let interval := Interval.around significand exponent
  let (count, digits) := interval.shortestFrom 17 1
  let text := toString digits
  { digits := dropZeros text, point := interval.point + (text.length - count : Int) }

end MacroSandbox.Shortest
