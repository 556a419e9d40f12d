import MacroSandbox.Number.Numeral
import MacroSandbox.Text.Blank

/-! Bytes and integers as hexadecimal digits. -/

namespace MacroSandbox.Hex

/-! ## Bytes -/

def pairs? : List Char → Option (List UInt8)
  | [] => some []
  | first :: second :: rest => do
      let byte ← Numeral.below? 16 256 [first, second]
      let bytes ← pairs? rest
      some (byte.toUInt8 :: bytes)
  | [_] => none

/-- The bytes that a text denotes; white space anywhere in it does not count. -/
def decode? (text : String) : Option (List UInt8) :=
  pairs? (text.toList.filter fun character => !Text.isBlank character)

def lowerDigit (value : Nat) : Char :=
  if value < 10 then Char.ofNat (0x30 + value) else Char.ofNat (0x61 + (value - 10))

def encode (bytes : List UInt8) : String :=
  String.ofList (bytes.flatMap fun byte =>
    [lowerDigit (byte.toNat / 16), lowerDigit (byte.toNat % 16)])

/-! ## Integers -/

/-- The upper-case digits of a 64-bit integer in two's complement, without leading zeros. -/
def ofInteger (value : Int64) : String :=
  String.ofList ((Nat.toDigits 16 value.toUInt64.toNat).map Char.toUpper)

end MacroSandbox.Hex
