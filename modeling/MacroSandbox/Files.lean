import MacroSandbox.Heap
import MacroSandbox.Names

/-! The files that emulated code opens, writes and closes. No file of the host is touched. -/

namespace MacroSandbox

/-- Open files with what was written to them, the file behind each number in use, and the contents
of the files that were closed. -/
structure FileTable where
  opened : Std.TreeMap String ByteArray := ∅
  numbers : Std.TreeMap String String := ∅
  closed : Std.TreeMap String ByteArray := ∅
  deriving Inhabited

namespace FileTable

/-- The name under which a file is kept: without blanks around it, without steps to the current
directory, with forward slashes. -/
def fileKey (name : String) : String :=
  Text.replace "\\" "/" (Text.replace ".\\" "" (Text.trim name))

/-- A file number in one spelling: `#1`, `# 1` and `1` are the same. -/
def numberKey (number : String) : String :=
  Text.asciiLower (Text.trim (Text.trimStartMatches (· == '#') (Text.trim number)))

def resolve (files : FileTable) (number : String) : String :=
  match files.numbers.get? (numberKey number) with
  | some name => name
  | none => fileKey number

def openFile (files : FileTable) (name : String) (number : Option String) : FileTable :=
  let key := fileKey name
  { files with
    numbers := match number with
      | some number => files.numbers.insert (numberKey number) key
      | none => files.numbers
    opened := files.opened.insert key ByteArray.empty }

def isOpen (files : FileTable) (number : String) : Bool :=
  files.opened.contains (files.resolve number)

def write (files : FileTable) (number : String) (bytes : ByteArray) : FileTable :=
  let key := files.resolve number
  { files with
    opened := files.opened.alter key fun contents =>
      some (contents.getD ByteArray.empty ++ bytes) }

def close? (files : FileTable) (number : String) :
    Option (String × ByteArray × FileTable) :=
  let key := files.resolve number
  match files.opened.get? key with
  | none => none
  | some contents =>
      some (key, contents,
        { opened := files.opened.erase key
          numbers := files.numbers.filter fun _ name => name != key
          closed := files.closed.insert key contents })

def openNames (files : FileTable) : List String :=
  files.opened.keys

end FileTable

/-! ## What is written for a value -/

/-- The four little-endian bytes of the low half of an integer, without the zero bytes at the
end. -/
def integerFileBytes (value : Int64) : ByteArray :=
  let low := value.toUInt64.toUInt32
  let bytes := [low.toUInt8, (low >>> 8).toUInt8, (low >>> 16).toUInt8, (low >>> 24).toUInt8]
  ⟨(bytes.reverse.dropWhile (· == 0)).reverse.toArray⟩

/-- The bytes that a write to a file appends for a value: a text such as `&H4D` is one byte, an
integer is its low bytes, and any other value is its bytes. -/
def fileBytes (heap : Heap) (value : Value) : ByteArray :=
  match value with
  | .text content =>
      if content.utf8ByteSize ≤ 4 && Text.startsWith "&h" (Text.asciiLower content) then
        match Numeral.below? 16 256 (content.toList.drop 2) with
        | some byte => ⟨#[byte.toUInt8]⟩
        | none => heap.bytes value
      else heap.bytes value
  | .integer number => integerFileBytes number
  | other => heap.bytes other

end MacroSandbox
