import MacroSandbox.Text.Walk

/-! Numerals: how text is read as a number. Every reader takes the whole text or refuses it; blanks
around a numeral are the caller's concern. -/

namespace MacroSandbox.Numeral

/-- Whether a character can stand in a numeral of any kind: a sign, a point, a digit in a radix up
to sixteen, or a letter of `inf`, `infinity` or `nan`. -/
def isPart (character : Char) : Bool :=
  character.isDigit || character == '.' || character == '-' || character == '+' ||
    "abcdefintyABCDEFINTY".toList.contains character

/-- The characters of a text that can be a numeral. Other text is not taken apart: no reader accepts
the empty list. -/
def characters (text : String) : List Char :=
  if Text.all isPart text then text.toList else []

/-! ## Integers -/

def digit? (radix : Nat) (character : Char) : Option Nat :=
  let code := character.toNat
  let value :=
    if 0x30 ≤ code && code ≤ 0x39 then code - 0x30
    else if 0x61 ≤ code && code ≤ 0x66 then code - 0x61 + 10
    else if 0x41 ≤ code && code ≤ 0x46 then code - 0x41 + 10
    else radix
  if value < radix then some value else none

/-- Continues a numeral whose digits so far have the value `sum`. It is refused as soon as its value
reaches `bound`: more digits can only make it larger. -/
def digitsBelow (radix bound : Nat) : List Char → (sum : Nat) → Option Nat
  | [], sum => some sum
  | character :: rest, sum =>
      match digit? radix character with
      | some value =>
          let sum := sum * radix + value
          if sum < bound then digitsBelow radix bound rest sum else none
      | none => none

def natural? (radix bound : Nat) : List Char → Option Nat
  | [] => none
  | digits => digitsBelow radix bound digits 0

def int64? (radix : Nat) (text : String) : Option Int64 :=
  match characters text with
  | '-' :: digits =>
      (natural? radix 0x8000000000000001 digits).map fun value => Int64.ofInt (-(value : Int))
  | '+' :: digits => (natural? radix 0x8000000000000000 digits).map Int64.ofNat
  | digits => (natural? radix 0x8000000000000000 digits).map Int64.ofNat

def below? (radix bound : Nat) : List Char → Option Nat
  | '+' :: digits => natural? radix bound digits
  | digits => natural? radix bound digits

/-! ## Decimals

A decimal numeral is as long as its writer likes, but the floating-point number nearest to it hangs
on few of its digits: halfway between two neighbours lies a decimal of at most 767 significant
digits. Beyond that many it matters only whether some later digit differs from zero. -/

structure Significand where
  leading : Nat := 0
  size : Nat := 0
  omitted : Nat := 0
  inexact : Bool := false
  count : Nat := 0

namespace Significand

def capacity : Nat := 800

def push (significand : Significand) (digit : Nat) : Significand :=
  if significand.size < capacity then
    { significand with
      leading := significand.leading * 10 + digit
      size := if significand.size == 0 && digit == 0 then 0 else significand.size + 1
      count := significand.count + 1 }
  else
    { significand with
      omitted := significand.omitted + 1
      inexact := significand.inexact || digit != 0
      count := significand.count + 1 }

def pushAll : List Char → Significand → Significand × List Char
  | [], significand => (significand, [])
  | character :: rest, significand =>
      match digit? 10 character with
      | some value => pushAll rest (significand.push value)
      | none => (significand, character :: rest)

/-- The floating-point number nearest to the digits times a power of ten. Numbers far outside the
range are settled by the position of the decimal point, counted from the first digit. -/
def toFloat (significand : Significand) (exponent : Int) : Float :=
  let point := exponent + significand.omitted + significand.size
  if significand.leading == 0 || point < -324 then 0.0
  else if 310 ≤ point then 1.0 / 0.0
  else
    let digits := significand.leading * 10 + (if significand.inexact then 1 else 0)
    let exponent := exponent + significand.omitted - 1
    Float.ofScientific digits (exponent < 0) exponent.natAbs

end Significand

/-- Continues an exponent whose digits so far have the value `sum`. Once an exponent is so large
that no sensible numeral needs it, its further digits are passed over. -/
def exponentFrom : List Char → (sum : Nat) → Option Nat
  | [], sum => some sum
  | character :: rest, sum =>
      match digit? 10 character with
      | some value => exponentFrom rest (if sum < 0x10000 then sum * 10 + value else sum)
      | none => none

def unsignedExponent? : List Char → Option Nat
  | [] => none
  | digits => exponentFrom digits 0

/-- The exponent part of a decimal numeral, which may be missing. -/
def exponent? : List Char → Option Int
  | [] => some 0
  | mark :: rest =>
      if mark == 'e' || mark == 'E' then
        match rest with
        | '-' :: digits => (unsignedExponent? digits).map fun value => -(value : Int)
        | '+' :: digits => (unsignedExponent? digits).map fun value => (value : Int)
        | digits => (unsignedExponent? digits).map fun value => (value : Int)
      else none

/-- A decimal numeral without its sign: digits with an optional point, at least one digit in all,
and an optional exponent. -/
def decimal? (characters : List Char) : Option Float :=
  let (whole, rest) := Significand.pushAll characters {}
  let (significand, rest) := match rest with
    | '.' :: rest => Significand.pushAll rest whole
    | rest => (whole, rest)
  if significand.count == 0 then none
  else (exponent? rest).map fun exponent =>
    significand.toFloat (exponent - (significand.count - whole.count : Nat))

def unsignedFloat? (characters : List Char) : Option Float :=
  let name := String.ofList ((characters.take 9).map Char.toLower)
  if name == "inf" || name == "infinity" then some (1.0 / 0.0)
  else if name == "nan" then some (0.0 / 0.0)
  else decimal? characters

def float? (text : String) : Option Float :=
  match characters text with
  | '-' :: rest => (unsignedFloat? rest).map Float.neg
  | '+' :: rest => unsignedFloat? rest
  | unsigned => unsignedFloat? unsigned

end MacroSandbox.Numeral
