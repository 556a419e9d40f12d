import MacroSandbox.Heap
import MacroSandbox.Limits
import MacroSandbox.Program

/-! What the operators compute. The interpreter and the loop machine share these definitions. -/

namespace MacroSandbox

/-! ## One operand -/

/-- The value of a unary operation. Negation wraps at the least integer. -/
def UnaryOperator.apply (operator : UnaryOperator) (operand : Value) : Value :=
  match operator with
  | .negate =>
      match operand.toNumber with
      | .float number => .float (-number)
      | other => .integer (-other.toInteger)
  | .complement =>
      match operand with
      | .boolean truth => .boolean (!truth)
      | other => .integer (~~~other.toInteger)

/-! ## Arithmetic -/

def fitsInteger (number : Int) : Bool :=
  Int64.minValue.toInt ≤ number && number ≤ Int64.maxValue.toInt

/-- Exact arithmetic while both sides are integers and the result is one, else floating point. -/
@[inline] def arithmetic (onIntegers : Int → Int → Int) (onFloats : Float → Float → Float)
    (left right : Value) : Value :=
  match left.toNumber, right.toNumber with
  | .integer left, .integer right =>
      let exact := onIntegers left.toInt right.toInt
      if fitsInteger exact then .integer (Int64.ofInt exact)
      else .float (onFloats (Value.floatOfInteger left) (Value.floatOfInteger right))
  | left, right => .float (onFloats left.toFloat right.toFloat)

/-- The integer that an operand of a whole-number division stands for: a half goes to the even
neighbour. -/
def roundedOperand (operand : Value) : Int64 :=
  match operand.toNumber with
  | .float number =>
      let parts := Binary64.ofFloat number
      if parts.isFinite then parts.toInteger .nearestEven else 0
  | other => other.toInteger

def wholeDivision (compute : Int64 → Int64 → Int64) (left right : Value) : Except Fault Value :=
  let divisor := roundedOperand right
  if divisor == 0 then .error .divisionByZero
  else .ok (.integer (compute (roundedOperand left) divisor))

/-! ## Text -/

def joinTexts (left right : String) : Except Fault Value :=
  let size := left.utf8ByteSize + right.utf8ByteSize
  if maxAllocation < size then
    .error (.outOfStringSpace ("concatenation of " ++ toString size ++ " bytes"))
  else .ok (.text (left ++ right))

/-! ## Comparison -/

/-- The order of two floating-point numbers; an undefined number has none. -/
def compareFloats (left right : Float) : Option Ordering :=
  if left < right then some .lt
  else if left == right then some .eq
  else if right < left then some .gt
  else none

def comparesAsNumber : Value → Bool
  | .text content => (Value.text content).looksNumeric
  | .list _ | .map _ | .object .. => false
  | _ => true

/-- The order of two values: as numbers if both read as numbers and not both are text, else as
texts. -/
def compareValues (heap : Heap) (left right : Value) : Option Ordering :=
  if !(left.isText && right.isText) && comparesAsNumber left && comparesAsNumber right then
    compareFloats left.toFloat right.toFloat
  else some (compare (heap.text left) (heap.text right))

/-! ## Two operands -/

def bitwise (onTruths : Bool → Bool → Bool) (onIntegers : Int64 → Int64 → Int64)
    (left right : Value) : Value :=
  match left, right with
  | .boolean left, .boolean right => .boolean (onTruths left right)
  | left, right => .integer (onIntegers left.toInteger right.toInteger)

def BinaryOperator.accepts (operator : BinaryOperator) (order : Option Ordering) : Bool :=
  match operator with
  | .equal => order == some .eq
  | .notEqual => order != some .eq
  | .less => order == some .lt
  | .lessOrEqual => order == some .lt || order == some .eq
  | .greater => order == some .gt
  | _ => order == some .gt || order == some .eq

def BinaryOperator.apply (heap : Heap) (operator : BinaryOperator) (left right : Value) :
    Except Fault Value :=
  match operator with
  | .add =>
      match left, right with
      | .text left, .text right => joinTexts left right
      | left, right =>
          if left.looksNumeric && right.looksNumeric then
            .ok (arithmetic (· + ·) (· + ·) left right)
          else
            .error (.typeMismatch
              ("cannot add " ++ left.kindName ++ " and " ++ right.kindName))
  | .subtract => .ok (arithmetic (· - ·) (· - ·) left right)
  | .multiply => .ok (arithmetic (· * ·) (· * ·) left right)
  | .divide =>
      let divisor := right.toFloat
      if divisor == 0.0 then .error .divisionByZero
      else .ok (.float (left.toFloat / divisor))
  | .integerDivide => wholeDivision (· / ·) left right
  | .modulo => wholeDivision (· % ·) left right
  | .power => .ok (.float (left.toFloat.pow right.toFloat))
  | .concatenate => joinTexts (heap.text left) (heap.text right)
  | .equal | .notEqual | .less | .lessOrEqual | .greater | .greaterOrEqual =>
      .ok (.boolean (operator.accepts (compareValues heap left right)))
  | .conjunction => .ok (bitwise (· && ·) (· &&& ·) left right)
  | .disjunction => .ok (bitwise (· || ·) (· ||| ·) left right)
  | .exclusiveDisjunction => .ok (bitwise Bool.xor (· ^^^ ·) left right)

end MacroSandbox
