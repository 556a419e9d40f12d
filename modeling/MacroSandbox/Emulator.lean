import MacroSandbox.Evaluation.Interpreter
import MacroSandbox.Report

/-! The emulation of a whole module: its declarations are put in place, and the procedures that an
office program would run on its own are called. -/

namespace MacroSandbox

/-! ## Entry points -/

/-- The procedures that run when a document is opened or closed, in the order in which they are
tried. -/
def entryPointNames : List String :=
  ["AutoOpen", "Document_Open", "AutoClose", "Document_Close", "Auto_Open", "AutoExec", "AutoExit",
    "Document_BeforeClose", "Workbook_Open", "Workbook_Activate", "Auto_Close", "Workbook_Close",
    "Workbook_Deactivate", "DocumentOpen", "App_DocumentOpen", "Main"]

def callbackEndings : List String :=
  ["_Activate", "_BeforeNavigate2", "_BeforeScriptExecute", "_Calculate", "_Change",
    "_DocumentComplete", "_DownloadBegin", "_DownloadComplete", "_FileDownload", "_GotFocus",
    "_Layout", "_LostFocus", "_MouseEnter", "_MouseHover", "_MouseLeave", "_MouseMove",
    "_NavigateComplete2", "_NavigateError", "_Painted", "_Painting", "_ProgressChange",
    "_PropertyChange", "_Resize", "_SetSecureLockIcon", "_StatusTextChange", "_TitleChange",
    "_Initialize", "_Click", "_OnConnecting", "_BeforeClose", "_OnDisconnected",
    "_OnEnterFullScreenMode", "_Zoom", "_Scroll", "_BeforeDropOrPaste"]

namespace Module

def procedure? (source : Module) (name : String) : Option Procedure :=
  source.procedures.find? fun procedure => Text.sameIgnoringCase procedure.name name

def entryPoints (source : Module) : List Procedure :=
  entryPointNames.filterMap source.procedure?

def isCallbackName (name : String) : Bool :=
  callbackEndings.any fun ending => Text.endsWith (Text.asciiLower ending) (Text.asciiLower name)

/-- The event handlers that are no entry points, in the order of their names. -/
def callbacks (source : Module) : List Procedure :=
  let isEntryPoint (procedure : Procedure) : Bool :=
    source.entryPoints.any fun entry => Text.sameIgnoringCase entry.name procedure.name
  let handlers := source.procedures.filter fun procedure =>
    !isEntryPoint procedure && isCallbackName procedure.name
  handlers.mergeSort fun left right =>
    !(Text.asciiLower right.name < Text.asciiLower left.name)

def candidates (source : Module) : List Procedure :=
  source.procedures.filter fun procedure =>
    procedure.kind == .sub && procedure.parameters.isEmpty

/-! ## Running a module -/

def bindProcedures : List Procedure → Eval Unit
  | [] => pure ()
  | procedure :: rest => do
      modify fun state => state.setProcedure procedure
      bindProcedures rest

def bindConstants : List (String × Expr) → Eval Unit
  | [] => pure ()
  | (name, expression) :: rest => do
      match ← Eval.attempt (Eval.node expression) with
      | .ok value => Eval.setVariable name value
      | .error _ => pure ()
      bindConstants rest

def load (source : Module) : Eval Unit := do
  bindProcedures source.procedures
  if !source.declarations.isEmpty then
    let _ ← Eval.block [.dim source.declarations]
  bindConstants source.constants
  Eval.clearError

/-- Runs one procedure from outside. Errors that it leaves pending are dropped, and its files are
closed. -/
def runEntry (procedure : Procedure) (arguments : List Value) : Eval Unit := do
  let _ ← Eval.attempt (Eval.call procedure arguments)
  if ← Eval.mustHandleError then Eval.clearError
  Eval.closeAllFiles

def runEntries (kind : String) : List Procedure → Eval Unit
  | [] => pure ()
  | procedure :: rest => do
      Eval.report kind procedure.name ""
      runEntry procedure []
      runEntries kind rest

def runAll (source : Module) : Eval Report := do
  source.load
  let found := source.entryPoints ++ source.callbacks
  let ran ←
    if found.isEmpty then do
      runEntries "Found Heuristic Entry Point" source.candidates
      pure source.candidates
    else do
      runEntries "Found Entry Point" found
      pure found
  return Report.ofRun (← get).run (ran.map (·.name))

def runOne (source : Module) (procedure : Procedure) (arguments : List Value) : Eval Report := do
  source.load
  runEntry procedure arguments
  return Report.ofRun (← get).run [procedure.name]

end Module

/-! ## Emulators -/

/-- A module with its environment. Its runs share the heap, in which the literals of the module are,
and the caches. -/
structure Emulator where
  source : Module
  environment : Environment := {}
  heap : Heap := {}
  caches : Caches := {}
  sink : Option (Array Action) := none

namespace Emulator

def runEnvironment (emulator : Emulator) : Environment :=
  { emulator.environment with
    externals := NameMap.ofList (emulator.source.externals.map fun external =>
      (external.name, external)) }

/-- Evaluates at module level in a new run: the result, the state at its end, and the emulator for
the next run. -/
def perform {α : Type} (emulator : Emulator) (action : Eval α) :
    Except Interruption α × State × Emulator :=
  let environment := emulator.runEnvironment
  let start := State.start environment emulator.sink emulator.heap emulator.caches
  let after (state : State) : Emulator :=
    { emulator with heap := state.heap, caches := state.caches, sink := state.run.sink }
  match action environment start with
  | .ok value state => (.ok value, state, after state)
  | .error interruption state => (.error interruption, state, after state)

/-- Makes a run whose report is all that is kept of it. What the run allocated is released. -/
def performRun (emulator : Emulator) (action : Eval Report) :
    Except Interruption Report × Emulator :=
  let (result, _, next) := emulator.perform action
  (result, { next with heap := next.heap.release emulator.heap })

def run (emulator : Emulator) : Except Interruption Report × Emulator :=
  emulator.performRun emulator.source.runAll

def runProcedure (emulator : Emulator) (name : String) (arguments : List Value) :
    Except Interruption Report × Emulator :=
  match emulator.source.procedure? name with
  | none => (.error (.fault (.invalidCall ("Unknown procedure `" ++ name ++ "`"))), emulator)
  | some procedure => emulator.performRun (emulator.source.runOne procedure arguments)

def evaluate (emulator : Emulator) (expression : Expr) : Except Interruption Value × Emulator :=
  let (result, _, emulator) := emulator.perform do
    emulator.source.load
    Eval.node expression
  (result, emulator)

end Emulator

end MacroSandbox
