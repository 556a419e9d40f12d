import MacroSandbox.Encoding.Hex

/-! The SHA-256 digest. -/

namespace MacroSandbox.Sha256

def roundConstants : Array UInt32 := #[
  0x428a2f98, 0x71374491, 0xb5c0fbcf, 0xe9b5dba5, 0x3956c25b, 0x59f111f1, 0x923f82a4, 0xab1c5ed5,
  0xd807aa98, 0x12835b01, 0x243185be, 0x550c7dc3, 0x72be5d74, 0x80deb1fe, 0x9bdc06a7, 0xc19bf174,
  0xe49b69c1, 0xefbe4786, 0x0fc19dc6, 0x240ca1cc, 0x2de92c6f, 0x4a7484aa, 0x5cb0a9dc, 0x76f988da,
  0x983e5152, 0xa831c66d, 0xb00327c8, 0xbf597fc7, 0xc6e00bf3, 0xd5a79147, 0x06ca6351, 0x14292967,
  0x27b70a85, 0x2e1b2138, 0x4d2c6dfc, 0x53380d13, 0x650a7354, 0x766a0abb, 0x81c2c92e, 0x92722c85,
  0xa2bfe8a1, 0xa81a664b, 0xc24b8b70, 0xc76c51a3, 0xd192e819, 0xd6990624, 0xf40e3585, 0x106aa070,
  0x19a4c116, 0x1e376c08, 0x2748774c, 0x34b0bcb5, 0x391c0cb3, 0x4ed8aa4a, 0x5b9cca4f, 0x682e6ff3,
  0x748f82ee, 0x78a5636f, 0x84c87814, 0x8cc70208, 0x90befffa, 0xa4506ceb, 0xbef9a3f7, 0xc67178f2]

structure Words where
  a : UInt32 := 0x6a09e667
  b : UInt32 := 0xbb67ae85
  c : UInt32 := 0x3c6ef372
  d : UInt32 := 0xa54ff53a
  e : UInt32 := 0x510e527f
  f : UInt32 := 0x9b05688c
  g : UInt32 := 0x1f83d9ab
  h : UInt32 := 0x5be0cd19

namespace Words

def add (left right : Words) : Words :=
  { a := left.a + right.a, b := left.b + right.b, c := left.c + right.c, d := left.d + right.d
    e := left.e + right.e, f := left.f + right.f, g := left.g + right.g, h := left.h + right.h }

def toList (words : Words) : List UInt32 :=
  [words.a, words.b, words.c, words.d, words.e, words.f, words.g, words.h]

end Words

def rotate (word : UInt32) (amount : UInt32) : UInt32 :=
  (word >>> amount) ||| (word <<< (32 - amount))

/-- The word of four bytes, the first of which is the most significant. -/
def word (bytes : ByteArray) (start : Nat) : UInt32 :=
  let byte (offset : Nat) : UInt32 :=
    if inside : start + offset < bytes.size then bytes[start + offset].toUInt32 else 0
  (byte 0 <<< 24) ||| (byte 1 <<< 16) ||| (byte 2 <<< 8) ||| byte 3

def wordBytes (word : UInt32) : List UInt8 :=
  [(word >>> 24).toUInt8, (word >>> 16).toUInt8, (word >>> 8).toUInt8, word.toUInt8]

def extend : (count : Nat) → Array UInt32 → Array UInt32
  | 0, schedule => schedule
  | count + 1, schedule =>
      let back (distance : Nat) : UInt32 := schedule.getD (schedule.size - distance) 0
      let early := back 15
      let late := back 2
      let first := rotate early 7 ^^^ rotate early 18 ^^^ (early >>> 3)
      let second := rotate late 17 ^^^ rotate late 19 ^^^ (late >>> 10)
      extend count (schedule.push (back 16 + first + back 7 + second))

def schedule (bytes : ByteArray) (start : Nat) : Array UInt32 :=
  extend 48 ((List.range 16).map fun index => word bytes (start + 4 * index)).toArray

def round (constant scheduled : UInt32) (words : Words) : Words :=
  let sum1 := rotate words.e 6 ^^^ rotate words.e 11 ^^^ rotate words.e 25
  let choice := (words.e &&& words.f) ^^^ (~~~words.e &&& words.g)
  let first := words.h + sum1 + choice + constant + scheduled
  let sum0 := rotate words.a 2 ^^^ rotate words.a 13 ^^^ rotate words.a 22
  let majority := (words.a &&& words.b) ^^^ (words.a &&& words.c) ^^^ (words.b &&& words.c)
  { a := first + sum0 + majority, b := words.a, c := words.b, d := words.c
    e := words.d + first, f := words.e, g := words.f, h := words.g }

def compress (bytes : ByteArray) (start : Nat) (words : Words) : Words :=
  let mixed := (roundConstants.zip (schedule bytes start)).foldl
    (fun words (constant, scheduled) => round constant scheduled words) words
  words.add mixed

def padded (bytes : ByteArray) : ByteArray :=
  let zeros := (119 - bytes.size % 64) % 64
  let length := (bytes.size * 8).toUInt64
  let lengthBytes := wordBytes (length >>> 32).toUInt32 ++ wordBytes length.toUInt32
  bytes.push 0x80 ++ ⟨Array.replicate zeros 0⟩ ++ ⟨lengthBytes.toArray⟩

def digest (bytes : ByteArray) : String :=
  let message := padded bytes
  let words := (List.range (message.size / 64)).foldl
    (fun words block => compress message (64 * block) words) {}
  Hex.encode (words.toList.flatMap wordBytes)

end MacroSandbox.Sha256
