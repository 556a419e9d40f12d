/-! Base64 with the standard alphabet and padding. Reading is strict: the padding must be there and
the bits it leaves over must be zero. -/

namespace MacroSandbox.Base64

def character (sextet : Nat) : Char :=
  if sextet < 26 then Char.ofNat (0x41 + sextet)
  else if sextet < 52 then Char.ofNat (0x61 + (sextet - 26))
  else if sextet < 62 then Char.ofNat (0x30 + (sextet - 52))
  else if sextet == 62 then '+'
  else '/'

def sextet? (character : Char) : Option Nat :=
  let code := character.toNat
  if 0x41 ≤ code && code ≤ 0x5A then some (code - 0x41)
  else if 0x61 ≤ code && code ≤ 0x7A then some (code - 0x61 + 26)
  else if 0x30 ≤ code && code ≤ 0x39 then some (code - 0x30 + 52)
  else if character == '+' then some 62
  else if character == '/' then some 63
  else none

def isCharacter (character : Char) : Bool :=
  character.isAlphanum || character == '+' || character == '/'

def encode : List UInt8 → List Char
  | [] => []
  | [first] =>
      let bits := first.toNat
      [character (bits / 4), character (bits % 4 * 16), '=', '=']
  | [first, second] =>
      let bits := first.toNat * 256 + second.toNat
      [character (bits / 1024), character (bits / 16 % 64), character (bits % 16 * 4), '=']
  | first :: second :: third :: rest =>
      let bits := (first.toNat * 256 + second.toNat) * 256 + third.toNat
      character (bits / 262144) :: character (bits / 4096 % 64) :: character (bits / 64 % 64) ::
        character (bits % 64) :: encode rest

def decode? : List Char → Option (List UInt8)
  | [] => some []
  | [first, second, '=', '='] => do
      let first ← sextet? first
      let second ← sextet? second
      let bits := first * 64 + second
      if bits % 16 == 0 then some [(bits / 16).toUInt8] else none
  | [first, second, third, '='] => do
      let first ← sextet? first
      let second ← sextet? second
      let third ← sextet? third
      let bits := (first * 64 + second) * 64 + third
      if bits % 4 == 0 then some [(bits / 1024).toUInt8, (bits / 4 % 256).toUInt8] else none
  | first :: second :: third :: fourth :: rest => do
      let first ← sextet? first
      let second ← sextet? second
      let third ← sextet? third
      let fourth ← sextet? fourth
      let bits := ((first * 64 + second) * 64 + third) * 64 + fourth
      let bytes ← decode? rest
      some ((bits / 65536).toUInt8 :: (bits / 256 % 256).toUInt8 :: (bits % 256).toUInt8 ::
        bytes)
  | _ => none

end MacroSandbox.Base64
