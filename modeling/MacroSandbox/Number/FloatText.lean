import MacroSandbox.Number.Binary64
import MacroSandbox.Number.Shortest

/-! How floating-point numbers are written. Both forms use the fewest digits that read back. -/

namespace MacroSandbox

namespace Shortest.Decimal

def positional (decimal : Decimal) : String :=
  let count := decimal.digits.length
  let zeros (number : Int) : String := String.ofList (List.replicate number.toNat '0')
  if decimal.point ≤ 0 then "0." ++ zeros (-decimal.point) ++ decimal.digits
  else if count ≤ decimal.point.toNat then decimal.digits ++ zeros (decimal.point - count)
  else
    let digits := decimal.digits.toList
    String.ofList (digits.take decimal.point.toNat) ++ "." ++
      String.ofList (digits.drop decimal.point.toNat)

def scientific (decimal : Decimal) : String :=
  let fraction :=
    match decimal.digits.toList.drop 1 with
    | [] => ""
    | rest => "." ++ String.ofList rest
  String.ofList (decimal.digits.toList.take 1) ++ fraction ++ "e" ++ toString (decimal.point - 1)

end Shortest.Decimal

namespace Binary64

def signText (negative : Bool) : String :=
  if negative then "-" else ""

def plain : Binary64 → String
  | .notANumber => "NaN"
  | .infinite negative => signText negative ++ "inf"
  | .finite negative 0 _ => signText negative ++ "0"
  | .finite negative significand exponent =>
      signText negative ++ (Shortest.decimal significand exponent).positional

/-- The text of a number in a loop program: it always shows that it is not an integer, by a fraction
or by an exponent. -/
def marked : Binary64 → String
  | .notANumber => "NaN"
  | .infinite negative => signText negative ++ "inf"
  | .finite negative 0 _ => signText negative ++ "0.0"
  | .finite negative significand exponent =>
      let decimal := Shortest.decimal significand exponent
      signText negative ++
        (if decimal.point ≤ -4 || 16 < decimal.point then decimal.scientific
         else if decimal.digits.length ≤ decimal.point.toNat then decimal.positional ++ ".0"
         else decimal.positional)

end Binary64

def floatText (number : Float) : String :=
  (Binary64.ofFloat number).plain

def markedFloatText (number : Float) : String :=
  (Binary64.ofFloat number).marked

end MacroSandbox
