import MacroSandbox.Encoding.Sha256
import MacroSandbox.Program.Render
import MacroSandbox.Scope

/-! Evaluations: computations that read the environment, change the state, and may be interrupted.
What an evaluation changed before an interruption stays changed. -/

namespace MacroSandbox

inductive Interruption
  | fault (fault : Fault)
  /-- The evaluation is nested deeper than it was given fuel for. -/
  | exhausted
  deriving Repr, DecidableEq, Inhabited

abbrev Eval (α : Type) := ReaderT Environment (EStateM Interruption State) α

inductive Flow
  | continue
  | exitFor
  | exitDo
  | exitSub
  | exitFunction
  deriving Repr, DecidableEq, Inhabited

namespace Eval

/-! ## Faults -/

def raise {α : Type} (fault : Fault) : Eval α :=
  throw (.fault fault)

@[inline] def lift {α : Type} : Except Fault α → Eval α
  | .ok value => pure value
  | .error fault => raise fault

@[inline] def attempt {α : Type} (action : Eval α) : Eval (Except Fault α) :=
  fun environment state =>
    match action environment state with
    | .ok value state => .ok (.ok value) state
    | .error (.fault fault) state =>
        if fault.isFatal then .error (.fault fault) state else .ok (.error fault) state
    | .error .exhausted state => .error .exhausted state

@[inline] def afterwards {α : Type} (action : Eval α) (change : State → State) : Eval α :=
  fun environment state =>
    match action environment state with
    | .ok value state => .ok value (change state)
    | .error interruption state => .error interruption (change state)

/-! ## Limits -/

@[inline] def tick : Eval Unit := fun _ state =>
  let (outcome, limiter) := state.run.limiter.tick
  let state := { state with run.limiter := limiter }
  match outcome with
  | .ok () => .ok () state
  | .error fault => .error (.fault fault) state

@[inline] def check : Eval Unit := fun _ state =>
  match state.run.limiter.check with
  | .ok () => .ok () state
  | .error fault => .error (.fault fault) state

/-! ## Values and variables -/

def text (value : Value) : Eval String :=
  return (← get).heap.text value

@[inline] def isTruthy (value : Value) : Eval Bool :=
  return (← get).heap.isTruthy value

/-- Changes the heap by a computation that may fail. The computation is the only owner of the heap,
so it can change it in place. -/
@[inline] def onHeap {α : Type} (compute : Heap → Except Fault α × Heap) : Eval α :=
  fun _ state =>
    let heap := state.heap
    let state := { state with heap := {} }
    match compute heap with
    | (.ok value, heap) => .ok value { state with heap }
    | (.error fault, heap) => .error (.fault fault) { state with heap }

@[inline] def allocate {α : Type} (compute : Heap → α × Heap) : Eval α :=
  onHeap fun heap =>
    let (value, heap) := compute heap
    (.ok value, heap)

@[inline] def scope : Eval Scope :=
  return (← get).scope (← read)

def lookup? (name : String) : Eval (Option Value) :=
  return (← scope).get? name

def variableOrNull (name : String) : Eval Value :=
  return ((← scope).get? name).getD .null

def setVariable (name : String) (value : Value) : Eval Unit := do
  let environment ← read
  modify fun state => state.set environment name value

def assignVariable (placement : Placement) (type : Option DeclaredType) (name : String)
    (value : Value) : Eval Unit := do
  let environment ← read
  modify fun state => state.assign environment placement type name value

def procedure? (name : String) : Eval (Option Procedure) :=
  return (← scope).procedure? name

def modifyFrame (change : Frame → Frame) : Eval Unit :=
  modify fun state => { state with frame := change state.frame }

def modifyRun (change : Run → Run) : Eval Unit :=
  modify fun state => { state with run := change state.run }

/-! ## Actions -/

def report (kind value description : String) : Eval Unit := do
  let value :=
    if (← read).policy.stripNulInActions then
      String.ofList (value.toList.filter (· != '\x00'))
    else value
  let action : Action := { kind, value, description }
  modifyRun fun run =>
    { run with
      actions := run.actions.push action
      sink := run.sink.map (·.push action) }

/-! ## Errors -/

/-- Records an error of the emulated program. It is pending afterwards unless statements that fail
are skipped. -/
def setError (fault : Fault) : Eval Unit := do
  modifyRun fun run =>
    { run with
      errorCount := run.errorCount + 1
      lastError := { number := fault.number, description := fault.message } }
  modifyFrame Frame.raisePending

@[inline] def mustHandleError : Eval Bool :=
  return (← get).frame.errorState == .pending

def clearError : Eval Unit :=
  modifyFrame fun frame => { frame with errorState := .clear }

def clearErrorInfo : Eval Unit :=
  modifyRun fun run => { run with lastError := {} }

/-! ## `With` blocks -/

/-- Enters a `With` block. The text of an object that starts with a dot is completed by the text of
the object around it. -/
def pushReceiver (object : Expr) : Eval Unit :=
  modify fun state =>
    let source := object.render state.heap
    let name := match state.frame.receiverName? with
      | some outer => if Text.startsWith "." source then outer ++ source else source
      | none => source
    { state with frame.receivers := { object, name } :: state.frame.receivers }

def withoutReceiver (state : State) : State :=
  { state with frame.receivers := state.frame.receivers.tail }

def popReceiver : Eval Unit :=
  modify withoutReceiver

/-! ## Files -/

def openFile (name : String) (number : Option String) : Eval Unit :=
  modifyRun fun run => { run with files := run.files.openFile name number }

def writeFile (number : String) (value : Value) : Eval Unit :=
  modify fun state =>
    { state with run.files := state.run.files.write number (fileBytes state.heap value) }

def closeFile (number : String) : Eval Unit := do
  match (← get).run.files.close? number with
  | some (name, contents, files) =>
      modifyRun fun run => { run with files }
      report "Dropped File Hash" (Sha256.digest contents) ("File Name: " ++ name)
  | none => pure ()

def closeFiles : List String → Eval Unit
  | [] => pure ()
  | number :: rest => do
      closeFile number
      closeFiles rest

def closeAllFiles : Eval Unit := do
  closeFiles (← get).run.files.openNames

/-! ## Memory -/

def writeMemory (move : Move) : Eval Unit :=
  modifyRun fun run => { run with memory := run.memory.write move }

end Eval

end MacroSandbox
