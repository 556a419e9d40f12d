import MacroSandbox.Action
import MacroSandbox.Caches
import MacroSandbox.Document
import MacroSandbox.Files
import MacroSandbox.Indicators
import MacroSandbox.Library.Catalog
import MacroSandbox.Policy
import MacroSandbox.Program

/-! Everything that an evaluation reads and changes.

The environment is fixed for the lifetime of a run. A run is shared by all its frames; a frame is
one call of a procedure, or the module itself. The heap and the caches outlive a run. -/

namespace MacroSandbox

/-! ## The environment -/

structure Environment where
  policy : Policy := {}
  library : Library := Library.standard
  constants : Constants := Constants.standard
  document : Option Workbook := none
  text : DocumentText := {}
  externals : NameMap ExternalFunction := {}
  clock : Clock := {}
  deriving Inhabited

/-! ## Runs -/

inductive Binding
  | value (held : Value)
  | procedure (held : Procedure)

def Binding.value? : Binding → Option Value
  | .value held => some held
  | .procedure _ => none

def Binding.procedure? : Binding → Option Procedure
  | .value _ => none
  | .procedure held => some held

structure ErrorInfo where
  number : Int := 0
  description : String := ""
  deriving Repr, DecidableEq, Inhabited

structure Run where
  globals : NameMap Binding := {}
  actions : Array Action := #[]
  /-- Every action as it happened, for a listener, if there is one. -/
  sink : Option (Array Action) := none
  files : FileTable := {}
  memory : Memory := {}
  indicators : Indicators := {}
  lastError : ErrorInfo := {}
  errorCount : Nat := 0
  limiter : Limiter
  deriving Inhabited

def Run.start (environment : Environment) (sink : Option (Array Action)) : Run :=
  { sink, limiter := environment.policy.limiter environment.clock }

/-! ## Frames -/

/-- Whether an error waits to be handled. While one is pending, no further statement runs. -/
inductive ErrorState
  | clear
  | pending
  | handled
  deriving Repr, DecidableEq, Inhabited

inductive ErrorMode
  | default
  | resumeNext
  | goto (label : String)
  deriving Repr, DecidableEq, Inhabited

/-- The object of a `With` block: the expression, its text as it is put in front of member names,
and its value once it was needed. -/
structure Receiver where
  object : Expr
  name : String
  value : Option Value := none
  deriving Inhabited

structure Frame where
  locals : NameMap Binding := {}
  types : NameMap DeclaredType := {}
  /-- The `With` blocks around the current statement, innermost first. -/
  receivers : List Receiver := []
  inProcedure : Bool := false
  errorState : ErrorState := .clear
  errorMode : ErrorMode := .default
  handler : Option (List Statement) := none
  /-- The statements after each label of the procedure. -/
  labelled : NameMap (List Statement) := {}
  deriving Inhabited

namespace Frame

def child (frame : Frame) : Frame :=
  { types := frame.types, inProcedure := true }

def receiverName? (frame : Frame) : Option String :=
  frame.receivers.head?.map (·.name)

/-- Leaves an error pending, unless statements that fail are skipped. -/
def raisePending (frame : Frame) : Frame :=
  if frame.errorMode == .resumeNext then frame else { frame with errorState := .pending }

/-- Sets what happens when a statement fails. A handler is kept only for a label. -/
def setErrorMode (frame : Frame) (mode : ErrorMode) : Frame :=
  match mode with
  | .goto _ => { frame with errorMode := mode }
  | _ => { frame with errorMode := mode, handler := none }

def onErrorGoto (frame : Frame) (label : String) : Frame :=
  { frame with handler := frame.labelled.get? label, errorMode := .goto label }

end Frame

/-- The statements after each label of a body; of two labels of one name the later one counts. -/
def labelledBlocks : List Statement → NameMap (List Statement) → NameMap (List Statement)
  | [], blocks => blocks
  | .label name :: rest, blocks => labelledBlocks rest (blocks.insert name rest)
  | _ :: rest, blocks => labelledBlocks rest blocks

/-! ## The whole state -/

structure State where
  heap : Heap := {}
  caches : Caches := {}
  run : Run
  frame : Frame := {}
  deriving Inhabited

def State.start (environment : Environment) (sink : Option (Array Action)) (heap : Heap)
    (caches : Caches) : State :=
  { heap, caches, run := Run.start environment sink }

end MacroSandbox
