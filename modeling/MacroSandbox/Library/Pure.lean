import MacroSandbox.Encoding.Hex
import MacroSandbox.Heap
import MacroSandbox.Library.Catalog
import MacroSandbox.Library.TextFunction
import MacroSandbox.Limits
import MacroSandbox.Text.Case

/-! What the pure functions of the library compute. -/

namespace MacroSandbox

/-! ## Arguments -/

def argument (arguments : List Value) (index : Nat) : Value :=
  arguments.getD index .null

def givenArgument? (arguments : List Value) (index : Nat) : Option Value :=
  match arguments[index]? with
  | some value => if value.isMissing then none else some value
  | none => none

namespace ScalarRoutine

/-! ## Characters and texts -/

def characterOfCode? (code : Int64) : Option Char :=
  let number := code.toInt
  if 0 ≤ number && number.toNat.isValidChar then some (Char.ofNat number.toNat) else none

def repeatCharacter (character : Char) (count : Int64) : Except Fault Value :=
  match allocation? count with
  | some size => .ok (.text ("".pushn character size))
  | none =>
      .error (.outOfStringSpace (toString count.toInt ++ " characters requested"))

/-- The character that `String` repeats: the first one of a text, else the one with a code. -/
def fillCharacter : Value → Char
  | .text content => content.front?.getD ' '
  | other => (characterOfCode? other.toInteger).getD ' '

/-! ## Numbers -/

/-- A number as a whole one; a half goes to the even neighbour. -/
def wholeNumber (value : Value) : Int64 :=
  match value.toNumber with
  | .float number => roundFloat .nearestEven number
  | other => other.toInteger

/-- The magnitude of a number. It wraps at the least integer. -/
def magnitude (value : Value) : Value :=
  match value.toNumber with
  | .float number => .float number.abs
  | other =>
      let number := other.toInteger
      .integer (if number < 0 then -number else number)

def spellsNumber : Value → Bool
  | .integer _ | .float _ => true
  | .text content => (Numeral.float? (Text.trim content)).isSome
  | _ => false

/-! ## Lists -/

def lastIndex (heap : Heap) : Value → Except Fault Value
  | .list place => .ok (.integer (Int64.ofInt ((heap.list place).size - 1 : Int)))
  | .text content => .ok (.integer (Int64.ofInt (content.length - 1 : Int)))
  | other => .error (.typeMismatch ("UBound of " ++ other.kindName))

/-- The delimiter of `Split` and `Join`, which is a blank unless it is given. -/
def delimiter (heap : Heap) (arguments : List Value) : String :=
  match givenArgument? arguments 1 with
  | some value => heap.text value
  | none => " "

def itemTexts (heap : Heap) : Value → List String
  | .list place => (heap.list place).toList.map heap.text
  | other => [heap.text other]

/-- The arguments of `InStr`: an optional start, the text to search, and what to look for. -/
def positionArguments (heap : Heap) (arguments : List Value) : Int × String × String :=
  if 3 ≤ arguments.length && (argument arguments 0).isNumeric then
    ((argument arguments 0).toInteger.toInt, heap.text (argument arguments 1),
      heap.text (argument arguments 2))
  else (1, heap.text (argument arguments 0), heap.text (argument arguments 1))

/-! ## All functions -/

def compute (heap : Heap) (arguments : List Value) : ScalarRoutine → Except Fault Value
  | .character =>
      let code := (argument arguments 0).toInteger
      match characterOfCode? code with
      | some found => .ok (.text (String.ofList [found]))
      | none => .error (.invalidCall ("Invalid character code " ++ toString code.toInt))
  | .characterCode =>
      match (heap.text (argument arguments 0)).front? with
      | none => .error (.invalidCall "Asc of an empty string")
      | some first => .ok (.integer (Int64.ofNat first.toNat))
  | .length => .ok (.integer (Int64.ofNat (heap.text (argument arguments 0)).length))
  | .middle =>
      let count := (givenArgument? arguments 2).map fun value => value.toInteger.toInt
      (TextFunction.middle (heap.text (argument arguments 0))
        (argument arguments 1).toInteger.toInt count).map Value.text
  | .left =>
      .ok (.text (TextFunction.left (heap.text (argument arguments 0))
        (argument arguments 1).toInteger.toInt))
  | .right =>
      .ok (.text (TextFunction.right (heap.text (argument arguments 0))
        (argument arguments 1).toInteger.toInt))
  | .lowerCase => .ok (.text (Text.toLower (heap.text (argument arguments 0))))
  | .upperCase => .ok (.text (Text.toUpper (heap.text (argument arguments 0))))
  | .trimBoth => .ok (.text (Text.trimMatches (· == ' ') (heap.text (argument arguments 0))))
  | .trimLeft => .ok (.text (Text.trimStartMatches (· == ' ') (heap.text (argument arguments 0))))
  | .trimRight => .ok (.text (Text.trimEndMatches (· == ' ') (heap.text (argument arguments 0))))
  | .replace =>
      .ok (.text (Text.replace (heap.text (argument arguments 1)) (heap.text (argument arguments 2))
        (heap.text (argument arguments 0))))
  | .position =>
      let (start, text, pattern) := positionArguments heap arguments
      .ok (.integer (Int64.ofNat (TextFunction.position start text pattern)))
  | .reverse => .ok (.text (TextFunction.reverse (heap.text (argument arguments 0))))
  | .toText => .ok (.text (heap.text (argument arguments 0)))
  | .toWhole => .ok (.integer (wholeNumber (argument arguments 0)))
  | .toByte =>
      let number := (argument arguments 0).toInteger
      if 0 ≤ number && number ≤ 255 then .ok (.integer number)
      else .error (.overflow ("Overflow converting " ++ toString number.toInt ++ " to Byte"))
  | .toDouble => .ok (.float (argument arguments 0).toFloat)
  | .leadingNumber =>
      .ok (Value.text (TextFunction.leadingNumber (heap.text (argument arguments 0)))).toNumber
  | .hexadecimal => .ok (.text (Hex.ofInteger (argument arguments 0).toInteger))
  | .spaces => repeatCharacter ' ' (argument arguments 0).toInteger
  | .repeated =>
      repeatCharacter (fillCharacter (argument arguments 1)) (argument arguments 0).toInteger
  | .join =>
      .ok (.text (String.intercalate (delimiter heap arguments)
        (itemTexts heap (argument arguments 0))))
  | .upperBound => lastIndex heap (argument arguments 0)
  | .lowerBound => .ok (.integer 0)
  | .absolute => .ok (magnitude (argument arguments 0))
  | .floor => .ok (.integer (roundFloat .down (argument arguments 0).toFloat))
  | .truncate => .ok (.integer (roundFloat .towardZero (argument arguments 0).toFloat))
  | .isNumeric => .ok (.boolean (spellsNumber (argument arguments 0)))

end ScalarRoutine

namespace PureRoutine

def apply (routine : PureRoutine) (arguments : List Value) (heap : Heap) :
    Except Fault Value × Heap :=
  match routine with
  | .split =>
      let pieces := Text.splitOn (ScalarRoutine.delimiter heap arguments)
        (heap.text (argument arguments 0))
      let (list, heap) := heap.newList (pieces.map Value.text)
      (.ok list, heap)
  | .array =>
      let (list, heap) := heap.newList arguments.toArray
      (.ok list, heap)
  | .scalar other => (other.compute heap arguments, heap)

end PureRoutine

end MacroSandbox
