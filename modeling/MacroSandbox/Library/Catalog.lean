import MacroSandbox.Fault
import MacroSandbox.Names
import MacroSandbox.Text.Search
import MacroSandbox.Value

/-! The catalog of library functions and of named constants. -/

namespace MacroSandbox

/-! ## Routines -/

/-- Functions whose value is a number, a truth value or a text. -/
inductive ScalarRoutine
  | character
  | characterCode
  | length
  | middle
  | left
  | right
  | lowerCase
  | upperCase
  | trimBoth
  | trimLeft
  | trimRight
  | replace
  | position
  | reverse
  | toText
  | toWhole
  | toByte
  | toDouble
  | leadingNumber
  | hexadecimal
  | spaces
  | repeated
  | join
  | upperBound
  | lowerBound
  | absolute
  | floor
  | truncate
  | isNumeric
  deriving Repr, DecidableEq, Inhabited

/-- Functions that look at nothing but their arguments. Compiled loops may call them. Two of them
make a new list. -/
inductive PureRoutine
  | scalar (routine : ScalarRoutine)
  | split
  | array
  deriving Repr, DecidableEq, Inhabited

/-- Functions that act on the state of the run: the clock, the log of actions, memory. -/
inductive HostRoutine
  | now
  | today
  | timer
  | shell
  | run
  | createObject
  | getObject
  | dynamicCode
  | environment
  | messageBox
  | download
  | openRequest
  | saveToFile
  | moveMemory
  deriving Repr, DecidableEq, Inhabited

inductive Routine
  | pure (routine : PureRoutine)
  | host (routine : HostRoutine)
  deriving Repr, DecidableEq, Inhabited

/-! ## Functions -/

structure Arity where
  least : Nat
  most : Nat
  deriving Repr, DecidableEq, Inhabited

namespace Arity

def admits (arity : Arity) (count : Nat) : Bool :=
  arity.least ≤ count && count ≤ arity.most

def render (arity : Arity) : String :=
  toString arity.least ++ "..=" ++ toString arity.most

end Arity

structure LibraryFunction where
  name : String
  arity : Arity
  returnType : Option DeclaredType
  routine : Routine
  deriving Repr, DecidableEq, Inhabited

namespace LibraryFunction

def isPure (function : LibraryFunction) : Bool :=
  match function.routine with
  | .pure _ => true
  | .host _ => false

def checkArity (function : LibraryFunction) (count : Nat) : Except Fault Unit :=
  if function.arity.admits count then .ok ()
  else .error (.wrongArgumentCount
    ("Wrong number of arguments to " ++ function.name ++ ": expected " ++
      function.arity.render ++ ", got " ++ toString count))

end LibraryFunction

/-! ## Libraries -/

structure Library where
  functions : NameMap LibraryFunction := {}
  deriving Inhabited

namespace Library

def register (library : Library) (function : LibraryFunction) : Library :=
  { functions := library.functions.insert function.name function }

/-- The function of a name. A trailing `$` is dropped if the name has no entry with it. -/
def get? (library : Library) (name : String) : Option LibraryFunction :=
  match library.functions.get? name with
  | some function => some function
  | none => (Text.dropEnd? "$" name).bind library.functions.get?

def ofFunctions (functions : List LibraryFunction) : Library :=
  functions.foldl register {}

/-- The largest number of arguments that an unbounded function admits. -/
def unbounded : Nat := UInt64.size - 1

def pureCatalog : List LibraryFunction :=
  let entry (name : String) (least most : Nat) (returnType : Option DeclaredType)
      (routine : PureRoutine) : LibraryFunction :=
    { name, arity := ⟨least, most⟩, returnType, routine := .pure routine }
  let scalar (name : String) (least most : Nat) (returnType : Option DeclaredType)
      (routine : ScalarRoutine) : LibraryFunction :=
    entry name least most returnType (.scalar routine)
  let text := some DeclaredType.string
  let integer := some DeclaredType.integer
  [scalar "Chr" 1 1 text .character,
   scalar "ChrW" 1 1 text .character,
   scalar "ChrB" 1 1 text .character,
   scalar "Asc" 1 1 integer .characterCode,
   scalar "AscW" 1 1 integer .characterCode,
   scalar "AscB" 1 1 integer .characterCode,
   scalar "Len" 1 1 integer .length,
   scalar "Mid" 2 3 text .middle,
   scalar "Left" 2 2 text .left,
   scalar "Right" 2 2 text .right,
   scalar "LCase" 1 1 text .lowerCase,
   scalar "UCase" 1 1 text .upperCase,
   scalar "Trim" 1 1 text .trimBoth,
   scalar "LTrim" 1 1 text .trimLeft,
   scalar "RTrim" 1 1 text .trimRight,
   scalar "Replace" 3 6 text .replace,
   scalar "InStr" 2 4 integer .position,
   scalar "StrReverse" 1 1 text .reverse,
   scalar "CStr" 1 1 text .toText,
   scalar "CInt" 1 1 integer .toWhole,
   scalar "CLng" 1 1 integer .toWhole,
   scalar "CByte" 1 1 integer .toByte,
   scalar "CDbl" 1 1 none .toDouble,
   scalar "Val" 1 1 none .leadingNumber,
   scalar "Hex" 1 1 text .hexadecimal,
   scalar "Space" 1 1 text .spaces,
   scalar "String" 2 2 text .repeated,
   entry "Split" 1 4 none .split,
   scalar "Join" 1 2 text .join,
   entry "Array" 0 unbounded none .array,
   scalar "UBound" 1 2 integer .upperBound,
   scalar "LBound" 1 2 integer .lowerBound,
   scalar "Abs" 1 1 none .absolute,
   scalar "Int" 1 1 integer .floor,
   scalar "Fix" 1 1 integer .truncate,
   scalar "IsNumeric" 1 1 none .isNumeric]

def hostCatalog : List LibraryFunction :=
  let entry (name : String) (least most : Nat) (returnType : Option DeclaredType)
      (routine : HostRoutine) : LibraryFunction :=
    { name, arity := ⟨least, most⟩, returnType, routine := .host routine }
  let text := some DeclaredType.string
  let integer := some DeclaredType.integer
  [entry "Now" 0 0 text .now,
   entry "Date" 0 0 text .today,
   entry "Timer" 0 0 none .timer,
   entry "Shell" 1 2 integer .shell,
   entry "Run" 1 3 integer .run,
   entry "Exec" 1 1 none .run,
   entry "ShellExecute" 1 5 none .run,
   entry "CreateObject" 1 2 none .createObject,
   entry "GetObject" 0 2 none .getObject,
   entry "Execute" 1 1 none .dynamicCode,
   entry "ExecuteGlobal" 1 1 none .dynamicCode,
   entry "Eval" 1 1 none .dynamicCode,
   entry "Environ" 1 1 text .environment,
   entry "MsgBox" 1 5 integer .messageBox,
   entry "URLDownloadToFile" 2 5 integer .download,
   entry "URLDownloadToFileA" 2 5 integer .download,
   entry "Open" 2 5 none .openRequest,
   entry "SaveToFile" 1 2 none .saveToFile,
   entry "RtlMoveMemory" 3 3 integer .moveMemory]

def standard : Library :=
  ofFunctions (pureCatalog ++ hostCatalog)

end Library

/-! ## Constants -/

structure Constants where
  values : NameMap Value := {}
  deriving Inhabited

namespace Constants

def insert (constants : Constants) (name : String) (value : Value) : Constants :=
  { values := constants.values.insert name value }

def get? (constants : Constants) (name : String) : Option Value :=
  constants.values.get? name

def standard : Constants :=
  { values := NameMap.ofList
      [("vbCrLf", .text "\r\n"),
       ("vbNewLine", .text "\r\n"),
       ("vbCr", .text "\r"),
       ("vbLf", .text "\n"),
       ("vbTab", .text "\t"),
       ("vbBack", .text "\x08"),
       ("vbNullString", .text ""),
       ("vbNullChar", .text "\x00"),
       ("vbTrue", .integer (-1)),
       ("vbFalse", .integer 0),
       ("vbHide", .integer 0),
       ("vbNormalFocus", .integer 1),
       ("vbMinimizedFocus", .integer 2),
       ("vbMaximizedFocus", .integer 3),
       ("vbNormalNoFocus", .integer 4),
       ("vbBinaryCompare", .integer 0),
       ("vbTextCompare", .integer 1),
       ("vbObjectError", .integer (-2147221504)),
       ("vbInteger", .integer 2),
       ("vbString", .integer 8),
       ("vbOKOnly", .integer 0),
       ("vbCritical", .integer 16),
       ("vbInformation", .integer 64)] }

end Constants

end MacroSandbox
