import MacroSandbox.Number.FloatText
import MacroSandbox.Number.Numeral
import MacroSandbox.Text.Blank
import MacroSandbox.Text.Search

/-! Values of the emulated language, and those of their coercions that look at nothing but the
value.

Lists and maps are references: a value holds the place of its contents in the heap, so two values
that hold one place observe each other's changes. -/

namespace MacroSandbox

/-! ## Declared types -/

inductive DeclaredType
  | variant
  | integer
  | long
  | byte
  | double
  | string
  | boolean
  | object
  deriving Repr, DecidableEq, Inhabited

def DeclaredType.name : DeclaredType → String
  | .variant => "Variant"
  | .integer => "Integer"
  | .long => "Long"
  | .byte => "Byte"
  | .double => "Double"
  | .string => "String"
  | .boolean => "Boolean"
  | .object => "Object"

/-! ## Values -/

/-- A value. Two objects are the same object exactly if they have one identity. -/
inductive Value
  | integer (value : Int64)
  | float (value : Float)
  | text (value : String)
  | boolean (value : Bool)
  | list (place : Nat)
  | map (place : Nat)
  | null
  | object (identity : Nat) (className : String)
  | unresolved

namespace Value

instance : Inhabited Value := ⟨.null⟩

def kindName : Value → String
  | .integer _ => "Integer"
  | .float _ => "Float"
  | .text _ => "String"
  | .boolean _ => "Boolean"
  | .list _ => "List"
  | .map _ => "Map"
  | .null => "Null"
  | .object .. => "Object"
  | .unresolved => "Unresolved"

def isNumeric : Value → Bool
  | .integer _ | .float _ => true
  | _ => false

/-- Missing values: both kinds behave like an empty value in expressions. -/
def isMissing : Value → Bool
  | .null | .unresolved => true
  | _ => false

def isText : Value → Bool
  | .text _ => true
  | _ => false

def booleanText (value : Bool) : String :=
  if value then "True" else "False"

/-! ## Reading text as a number -/

/-- The integer that a text denotes. Blank text and text of NUL characters is zero; `&H` and `&O`
start hexadecimal and octal numerals; a decimal numeral with a fraction or an exponent is cut to its
whole part. -/
def integerOfText? (content : String) : Option Int64 :=
  let trimmed := Text.trim content
  if trimmed.isEmpty || Text.all (· == '\x00') trimmed then some 0
  else
    let lower := Text.asciiLower trimmed
    match Text.dropStart? "&h" lower with
    | some digits => Numeral.int64? 16 digits
    | none =>
      match Text.dropStart? "&o" lower with
      | some digits => Numeral.int64? 8 digits
      | none =>
        match Numeral.int64? 10 trimmed with
        | some value => some value
        | none =>
          match Numeral.float? trimmed with
          | some number =>
              let parts := Binary64.ofFloat number
              if parts.isFinite then some (parts.toInteger .towardZero) else none
          | none => none

/-- The value as an integer. What cannot be read as a number is zero. -/
def toInteger : Value → Int64
  | .integer value => value
  | .float value =>
      let parts := Binary64.ofFloat value
      if parts.isFinite then parts.toInteger .towardZero else 0
  | .boolean value => if value then -1 else 0
  | .text value => (integerOfText? value).getD 0
  | .list _ | .map _ | .object .. | .null | .unresolved => 0

/-- The floating-point number nearest to an integer. The magnitude of the least integer is a number
without sign only. -/
def floatOfInteger (value : Int64) : Float :=
  if value < 0 then -(-value).toUInt64.toFloat else value.toUInt64.toFloat

def toFloat (value : Value) : Float :=
  match value with
  | .float number => number
  | .text content =>
      match Numeral.float? (Text.trim content) with
      | some number => number
      | none => floatOfInteger ((integerOfText? content).getD 0)
  | other => floatOfInteger other.toInteger

/-- The value as a number, which stays an integer if it reads as one. -/
def toNumber (value : Value) : Value :=
  match value with
  | .integer _ | .float _ => value
  | .text content =>
      let trimmed := Text.trim content
      let asFloat : Value :=
        match Numeral.float? trimmed with
        | some number => .float number
        | none => .integer value.toInteger
      if Text.any (· == '.') trimmed then asFloat
      else
        match integerOfText? trimmed with
        | some whole => .integer whole
        | none => asFloat
  | other => .integer other.toInteger

/-- Text that reads as a number in arithmetic and in comparisons, and every value that is no
text. -/
def looksNumeric : Value → Bool
  | .text content =>
      let trimmed := Text.asciiLower (Text.trim content)
      !trimmed.isEmpty &&
        ((Numeral.float? trimmed).isSome || Text.startsWith "&h" trimmed ||
          Text.startsWith "&o" trimmed)
  | _ => true

end Value

def DeclaredType.initial : Option DeclaredType → Value
  | some .string => .text ""
  | some .integer | some .long | some .byte => .integer 0
  | some .double => .float 0.0
  | some .boolean => .boolean false
  | some .variant | some .object | none => .null

end MacroSandbox
