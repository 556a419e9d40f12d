import MacroSandbox.Evaluation.Statement

/-! Calls of procedures. -/

namespace MacroSandbox

namespace Engine

/-- Transfers a pending error to the handler of the frame. Without a handler it stays pending. -/
def handleError (engine : Engine) : Eval Unit := do
  let frame := (← get).frame
  match frame.errorState, frame.handler with
  | .pending, some handler =>
      Eval.modifyFrame fun frame =>
        { frame with errorState := .handled, errorMode := .default, handler := none }
      let _ ← engine.block handler
  | _, _ => pure ()

/-- Binds parameters to arguments. A missing argument is null; arguments in excess are dropped. -/
def bindParameters : List Parameter → List Value → Eval Unit
  | [], _ => pure ()
  | parameter :: rest, arguments => do
      Eval.assignVariable .local parameter.type parameter.name (arguments.head?.getD .null)
      bindParameters rest arguments.tail

def returnValue (procedure : Procedure) : Eval Value :=
  match procedure.kind with
  | .function => Eval.variableOrNull procedure.name
  | .sub => return .null

/-- Runs a procedure in the current frame, which is its own: the value that it returns, and whether
it leaves an error pending. -/
def runInFrame (engine : Engine) (procedure : Procedure) (arguments : List Value) :
    Eval (Value × Bool) := do
  Eval.modifyFrame fun frame => { frame with labelled := labelledBlocks procedure.body {} }
  if procedure.kind == .function then
    Eval.assignVariable .local procedure.returnType procedure.name
      (DeclaredType.initial procedure.returnType)
  bindParameters procedure.parameters arguments
  let _ ← engine.block procedure.body
  engine.handleError
  let pending ← Eval.mustHandleError
  let value ← returnValue procedure
  return (value, pending)

/-- Enters the frame of a called procedure, unless calls nest too deep. -/
def enterFrame : Eval Unit := fun _ state =>
  match state.run.limiter.enter with
  | .ok limiter => .ok () { state with frame := state.frame.child, run.limiter := limiter }
  | .error fault => .error (.fault fault) state

def backInFrame (frame : Frame) (state : State) : State :=
  { state with frame, run.limiter := state.run.limiter.leave }

/-- Calls a procedure in a frame of its own. An error that the procedure leaves unhandled is pending
in the frame of the caller. -/
def callProcedure (engine : Engine) (procedure : Procedure) (arguments : List Value) :
    Eval Value := do
  let caller := (← get).frame
  enterFrame
  let (value, pending) ←
    Eval.afterwards (engine.runInFrame procedure arguments) (backInFrame caller)
  if pending then Eval.modifyFrame Frame.raisePending
  return value

end Engine

end MacroSandbox
