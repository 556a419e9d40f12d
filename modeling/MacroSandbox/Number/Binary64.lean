/-! Binary floating-point numbers taken apart into sign, significand and exponent, so that rounding
to integers is exact arithmetic. -/

namespace MacroSandbox

/-- A 64-bit floating-point number: a finite one is `significand * 2 ^ exponent` with a sign. -/
inductive Binary64
  | notANumber
  | infinite (negative : Bool)
  | finite (negative : Bool) (significand : Nat) (exponent : Int)
  deriving Repr, DecidableEq

/-- Which integer stands for a number between two integers. -/
inductive Rounding
  | towardZero
  | down
  | nearestEven
  deriving Repr, DecidableEq

def saturate (number : Int) : Int64 :=
  if number < Int64.minValue.toInt then Int64.minValue
  else if Int64.maxValue.toInt < number then Int64.maxValue
  else Int64.ofInt number

namespace Binary64

def ofFloat (number : Float) : Binary64 :=
  let bits := number.toBits
  let negative := bits >>> 63 == 1
  let exponent := ((bits >>> 52) &&& 0x7FF).toNat
  let fraction := (bits &&& 0xFFFFFFFFFFFFF).toNat
  if exponent == 0x7FF then
    if fraction == 0 then .infinite negative else .notANumber
  else if exponent == 0 then .finite negative fraction (-1074)
  else .finite negative (fraction + 0x10000000000000) (exponent - 1075)

/-- Rounds the quotient `numerator / denominator` of a number that is negative if `negative` says
so; the result is the magnitude. -/
def roundQuotient (rounding : Rounding) (negative : Bool) (numerator denominator : Nat) : Nat :=
  let quotient := numerator / denominator
  let remainder := numerator % denominator
  match rounding with
  | .towardZero => quotient
  | .down => if negative && remainder != 0 then quotient + 1 else quotient
  | .nearestEven =>
      if 2 * remainder < denominator then quotient
      else if denominator < 2 * remainder then quotient + 1
      else if quotient % 2 == 0 then quotient else quotient + 1

def roundFinite (rounding : Rounding) (negative : Bool) (significand : Nat) (exponent : Int) :
    Int :=
  let magnitude :=
    if 0 ≤ exponent then significand * Nat.pow 2 exponent.toNat
    else roundQuotient rounding negative significand (Nat.pow 2 (-exponent).toNat)
  if negative then -(magnitude : Int) else magnitude

/-- The 64-bit integer that stands for a number. Infinities go to the ends of the range and what is
not a number goes to zero. -/
def toInteger (rounding : Rounding) : Binary64 → Int64
  | .notANumber => 0
  | .infinite negative => if negative then Int64.minValue else Int64.maxValue
  | .finite negative significand exponent =>
      saturate (roundFinite rounding negative significand exponent)

def isFinite : Binary64 → Bool
  | .finite .. => true
  | _ => false

end Binary64

def roundFloat (rounding : Rounding) (number : Float) : Int64 :=
  (Binary64.ofFloat number).toInteger rounding

end MacroSandbox
