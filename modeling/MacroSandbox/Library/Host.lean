import MacroSandbox.Evaluation.Monad
import MacroSandbox.Library.Pure

/-! What the functions of the library do that act on the state of the run. Nothing on the host is
touched: an action is reported, and the emulated program gets a plausible answer. -/

namespace MacroSandbox

/-! ## The environment of the user -/

def environmentVariable (name : String) : String :=
  if name == "TEMP" || name == "TMP" then "C:\\Users\\admin\\AppData\\Local\\Temp"
  else if name == "APPDATA" then "C:\\Users\\admin\\AppData\\Roaming"
  else if name == "USERPROFILE" then "C:\\Users\\admin"
  else if name == "USERNAME" then "admin"
  else if name == "WINDIR" || name == "SYSTEMROOT" then "C:\\Windows"
  else "%" ++ name ++ "%"

/-! ## Routines -/

namespace HostRoutine

def makeObject (kind className : String) : Eval Value := do
  Eval.report kind className "Interesting Function Call"
  Eval.allocate fun heap => heap.newObject className

def perform (routine : HostRoutine) (arguments : List Value) : Eval Value := do
  let first ← Eval.text (argument arguments 0)
  match routine with
  | .now => return .text (← read).clock.dateAndTime
  | .today => return .text (← read).clock.date
  | .timer => return .float (← read).clock.secondsSinceMidnight
  | .shell =>
      Eval.report "Execute Command" first "Shell function"
      return .integer 0
  | .run =>
      Eval.report "Execute Command" first "Interesting Function Call"
      return .integer 0
  | .createObject => makeObject "CreateObject" first
  | .getObject => makeObject "GetObject" first
  | .dynamicCode =>
      Eval.report "Dynamic Execution" first "Execute/Eval"
      return .null
  | .environment => return .text (environmentVariable (Text.asciiUpper first))
  | .messageBox =>
      Eval.report "Display Message" first "MsgBox"
      return .integer 1
  | .download =>
      Eval.report "Download URL" (← Eval.text (argument arguments 1)) "URLDownloadToFile"
      Eval.report "Write File" (← Eval.text (argument arguments 2)) "URLDownloadToFile"
      return .integer 0
  | .openRequest =>
      Eval.report (Text.asciiUpper first) (← Eval.text (argument arguments 1))
        "Interesting Function Call"
      return .null
  | .saveToFile =>
      Eval.report "Write File" first "ADODB.Stream SaveToFile"
      return .null
  | .moveMemory =>
      let heap := (← get).heap
      Eval.writeMemory
        (moveOf heap (argument arguments 0) (argument arguments 1) (argument arguments 2))
      return .integer 0

end HostRoutine

def Eval.callLibrary (function : LibraryFunction) (arguments : List Value) : Eval Value := do
  Eval.lift (function.checkArity arguments.length)
  match function.routine with
  | .pure routine => Eval.onHeap (routine.apply arguments)
  | .host routine => routine.perform arguments

end MacroSandbox
