import MacroSandbox.Encoding.Base64
import MacroSandbox.Text.Blank
import MacroSandbox.Text.Character
import MacroSandbox.Text.Slice
import Std.Data.TreeSet

/-! Indicators of compromise in the texts that a run computes: addresses on the network and long
pieces of Base64, whether or not they ever reach a reported action. -/

namespace MacroSandbox

/-! ## Network addresses

An address starts at the start of a word with one of three schemes in any case, followed by `://`
and at least one character that is neither blank nor a quote nor an angle bracket. All letters of a
scheme are part of one word, so at most one address is under way at any place of a text. -/

namespace NetworkAddress

def isAddressCharacter (character : Char) : Bool :=
  !(Text.isBlank character || character == '"' || character == '\'' || character == '<' ||
    character == '>')

/-- Whether a character is a letter in either case. The long s counts as an s. -/
def isLetter (letter character : Char) : Bool :=
  character.toLower == letter || (letter == 's' && character.toNat == 0x17F)

/-- How much of an address was read: the last part of it that is complete. -/
inductive Stage
  | outside
  | h | ht | htt | http | https
  | f | ft | ftp
  | colon | slash | slashes
  | address
  deriving Repr, DecidableEq, Inhabited

namespace Stage

/-- The stage after the first character of an address, which must stand at the start of a word. -/
def first (previous character : Char) : Stage :=
  if isLetter 'h' character then if Text.isWordCharacter previous then .outside else .h
  else if isLetter 'f' character then if Text.isWordCharacter previous then .outside else .f
  else .outside

/-- The stage after one more character of an address, if the character continues it. -/
def next? (stage : Stage) (character : Char) : Option Stage :=
  let expect (expected : Bool) (stage : Stage) : Option Stage :=
    if expected then some stage else none
  match stage with
  | .outside => none
  | .h => expect (isLetter 't' character) .ht
  | .ht => expect (isLetter 't' character) .htt
  | .htt => expect (isLetter 'p' character) .http
  | .http =>
      if isLetter 's' character then some .https else expect (character == ':') .colon
  | .f => expect (isLetter 't' character) .ft
  | .ft => expect (isLetter 'p' character) .ftp
  | .https | .ftp => expect (character == ':') .colon
  | .colon => expect (character == '/') .slash
  | .slash => expect (character == '/') .slashes
  | .slashes | .address => expect (isAddressCharacter character) .address

end Stage

/-- A scan on its way through a text: how many bytes it has read, the last character, how much of an
address ends there and where that starts, and where the addresses before it start and how long they
are, last first. Before the first character there is a blank. -/
structure Scan where
  offset : Nat := 0
  previous : Char := ' '
  stage : Stage := .outside
  start : Nat := 0
  found : List (Nat × Nat) := []

namespace Scan

def complete (scan : Scan) : List (Nat × Nat) :=
  if scan.stage == .address then (scan.start, scan.offset - scan.start) :: scan.found
  else scan.found

def step (scan : Scan) (character : Char) : Scan :=
  let offset := scan.offset + character.utf8Size
  match scan.stage.next? character with
  | some stage => { scan with offset, previous := character, stage }
  | none =>
      { offset
        previous := character
        stage := Stage.first scan.previous character
        start := scan.offset
        found := scan.complete }

end Scan

def findAll (text : String) : List String :=
  let hasColon := text.toUTF8.foldl (fun found byte => found || byte == ':'.toUInt8) false
  if hasColon then
    (Text.fold Scan.step {} text).complete.reverse.map fun (start, count) =>
      Text.bytesFrom text start count
  else []

end NetworkAddress

/-! ## Base64

A piece is at least eleven groups of four characters of the alphabet, of which the last may be
padded. A run of characters of the alphabet with the padding after it holds at most one piece, which
starts where the run does. All these characters take one byte, and no byte of another character
looks like one of them. -/

namespace Base64Piece

def isCharacter (byte : UInt8) : Bool :=
  Base64.isCharacter (Char.ofUInt8 byte)

def length? (run padding : Nat) : Option Nat :=
  let groups := run / 4
  let padded := (run % 4 == 2 && padding == 2) || (run % 4 == 3 && 1 ≤ padding)
  if padded && 10 ≤ groups then some (4 * groups + 4)
  else if 11 ≤ groups then some (4 * groups)
  else none

/-- A scan on its way through a text: how many bytes it has read, the run and the padding that end
there, and where the pieces before them start and how long they are, last first. -/
structure Scan where
  offset : Nat := 0
  run : Nat := 0
  padding : Nat := 0
  found : List (Nat × Nat) := []

namespace Scan

def complete (scan : Scan) : List (Nat × Nat) :=
  match length? scan.run scan.padding with
  | some count => (scan.offset - scan.padding - scan.run, count) :: scan.found
  | none => scan.found

def step (scan : Scan) (byte : UInt8) : Scan :=
  let offset := scan.offset + 1
  if isCharacter byte then
    if scan.padding == 0 then { scan with offset, run := scan.run + 1 }
    else { offset, run := 1, found := scan.complete }
  else if byte == '='.toUInt8 && scan.run != 0 && scan.padding < 2 then
    { scan with offset, padding := scan.padding + 1 }
  else { offset, found := scan.complete }

end Scan

def findAll (text : String) : List String :=
  (text.toUTF8.foldl Scan.step {}).complete.reverse.map fun (start, count) =>
    Text.bytesFrom text start count

end Base64Piece

/-! ## The record -/

structure Indicators where
  addresses : Std.TreeSet String := ∅
  encoded : Std.TreeSet String := ∅
  deriving Inhabited

namespace Indicators

def minEncodedLength : Nat := 200

def maxEncoded : Nat := 200

def recordEncoded (seen : Std.TreeSet String) (piece : String) : Std.TreeSet String :=
  if minEncodedLength < piece.utf8ByteSize && seen.size < maxEncoded then seen.insert piece
  else seen

def scanAddresses (seen : Std.TreeSet String) (text : String) : Std.TreeSet String :=
  (NetworkAddress.findAll text).foldl (fun seen address => seen.insert address) seen

/-- Whether a text has as many characters of the alphabet in a row as every piece that is recorded:
such a piece is longer than the least length, and at most two of its characters are padding. -/
def hasLongRun (text : String) : Bool :=
  let enough := minEncodedLength - 1
  let longer (run : Nat) (byte : UInt8) : Nat :=
    if run == enough then run else if Base64Piece.isCharacter byte then run + 1 else 0
  text.toUTF8.foldl longer 0 == enough

def scanEncoded (seen : Std.TreeSet String) (text : String) : Std.TreeSet String :=
  if text.utf8ByteSize ≤ minEncodedLength || maxEncoded ≤ seen.size || !hasLongRun text then seen
  else (Base64Piece.findAll text).foldl recordEncoded seen

def scan (indicators : Indicators) (text : String) : Indicators :=
  { addresses := scanAddresses indicators.addresses text
    encoded := scanEncoded indicators.encoded text }

def toList (indicators : Indicators) : List String :=
  indicators.addresses.toList ++ indicators.encoded.toList

end Indicators

end MacroSandbox
