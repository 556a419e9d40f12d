import MacroSandbox.Evaluation.Assignment
import MacroSandbox.Loop.Compiler

/-! The execution of statements. -/

namespace MacroSandbox

namespace Engine

/-! ## Loops -/

inductive AfterBody
  | repeat
  | stop
  | leave (flow : Flow)

/-- Runs the body of a loop. A pending error and the exit of the loop's own kind end the loop. -/
def runBody (engine : Engine) (body : List Statement) (ownExit : Flow) : Eval AfterBody := do
  let flow ← engine.block body
  if ← Eval.mustHandleError then return .stop
  match flow with
  | .continue => return .repeat
  | flow => if flow == ownExit then return .stop else return .leave flow

def isPast (heap : Heap) (descending : Bool) (current finish : Value) : Bool :=
  match compareValues heap current finish with
  | some .gt => !descending
  | some .lt => descending
  | _ => false

def advance (index : String) (step : Value) : Eval Unit := do
  let current ← Eval.variableOrNull index
  let next ← Eval.lift (BinaryOperator.add.apply (← get).heap current step)
  Eval.setVariable index next

def runRange (engine : Engine) (index : String) (finish step : Value) (descending : Bool)
    (body : List Statement) : (rounds : Nat) → Eval Flow
  | 0 => return .continue
  | rounds + 1 => do
      let current ← Eval.variableOrNull index
      if isPast (← get).heap descending current finish then return .continue
      match ← engine.runBody body .exitFor with
      | .stop => return .continue
      | .leave flow => return flow
      | .repeat =>
          advance index step
          engine.runRange index finish step descending body rounds

def runItems (engine : Engine) (index : String) (body : List Statement) :
    (rounds : Nat) → (items : List Value) → Eval Flow
  | 0, _ => return .continue
  | _ + 1, [] => return .continue
  | rounds + 1, item :: items => do
      Eval.setVariable index item
      match ← engine.runBody body .exitFor with
      | .stop => return .continue
      | .leave flow => return flow
      | .repeat => engine.runItems index body rounds items

def wantsRound (engine : Engine) : Option (LoopTest × Expr) → Eval Bool
  | none => return true
  | some (.while, condition) => do Eval.isTruthy (← engine.operand condition)
  | some (.until, condition) => do return !(← Eval.isTruthy (← engine.operand condition))

def testWhen (engine : Engine) (tested : Bool) (condition : Option (LoopTest × Expr)) :
    Eval Bool :=
  if tested then engine.wantsRound condition else return true

/-- The rounds of a loop with a condition before or after its body. A condition before the body is
evaluated once more than there are rounds. -/
def runConditional (engine : Engine) (condition : Option (LoopTest × Expr)) (testFirst : Bool)
    (body : List Statement) : (rounds : Nat) → Eval Flow
  | 0 => do
      let _ ← engine.testWhen testFirst condition
      return .continue
  | rounds + 1 => do
      if !(← engine.testWhen testFirst condition) then return .continue
      match ← engine.runBody body .exitDo with
      | .stop => return .continue
      | .leave flow => return flow
      | .repeat =>
          if !(← engine.testWhen (!testFirst) condition) then return .continue
          engine.runConditional condition testFirst body rounds

def startRange (engine : Engine) (index : String) (start finish : Expr) (step : Option Expr) :
    Eval (Value × Value) := do
  let start ← engine.operand start
  let finish ← engine.operand finish
  let step ← match step with
    | some step => engine.operand step
    | none => pure (.integer 1)
  Eval.setVariable index start.toNumber
  return (finish.toNumber, step.toNumber)

/-- Interprets a loop. One that runs for too many rounds is abandoned. -/
def runLoop (engine : Engine) (loop : Statement) : Eval Flow := do
  let rounds := (← read).policy.maxLoopIterations
  match loop with
  | .forRange index start finish step body =>
      let (finish, step) ← engine.startRange index start finish step
      engine.runRange index finish step (step.toFloat < 0.0) body rounds
  | .forEach index items body =>
      let container ← engine.operand items
      let items ← Eval.lift (iterationItems (← get).heap container)
      engine.runItems index body rounds items
  | .whileLoop condition body =>
      engine.runConditional (some (.while, condition)) true body rounds
  | .doLoop condition testFirst body => engine.runConditional condition testFirst body rounds
  | _ => return .continue

/-! ## Branches and files -/

def runBranch (engine : Engine) (otherwise : List Statement) : List Arm → Eval Flow
  | [] => engine.block otherwise
  | .mk condition body :: rest => do
      if ← Eval.isTruthy (← engine.operand condition) then engine.block body
      else engine.runBranch otherwise rest

def closeNumbered (engine : Engine) : List Expr → Eval Unit
  | [] => pure ()
  | number :: rest => do
      let number ← Eval.text (← engine.operand number)
      Eval.closeFile number
      engine.closeNumbered rest

/-! ## Statements -/

def errorTargetFrame (target : ErrorTarget) (frame : Frame) : Frame :=
  match target with
  | .resumeNext => frame.setErrorMode .resumeNext
  | .disable => frame.setErrorMode .default
  | .label name => frame.onErrorGoto name

def exitFlow : ExitKind → Flow
  | .for => .exitFor
  | .do => .exitDo
  | .sub => .exitSub
  | .function => .exitFunction

def runCall (engine : Engine) (expression : Expr) : Eval Unit := do
  let _ ← match expression with
    | .member .. => engine.callValue expression expression []
    | .call callee arguments => engine.callValue expression callee arguments
    | other => engine.nodeValue other

def runStatement (engine : Engine) (statement : Statement) : Eval Flow := do
  match statement with
  | .dim declarations =>
      engine.declare declarations
      return .continue
  | .assign target value =>
      let value ← engine.operand value
      engine.assign target value
      return .continue
  | .call expression =>
      engine.runCall expression
      return .continue
  | .branch arms otherwise => engine.runBranch otherwise arms
  | .forRange .. | .forEach .. | .whileLoop .. | .doLoop .. =>
      if (← read).policy.compileLoops then
        if ← Eval.compileLoop statement then return .continue
      engine.runLoop statement
  | .withBlock object body =>
      Eval.pushReceiver object
      Eval.afterwards (engine.block body) Eval.withoutReceiver
  | .onError target =>
      Eval.clearErrorInfo
      Eval.modifyFrame (errorTargetFrame target)
      return .continue
  | .label _ => return .continue
  | .exit kind => return exitFlow kind
  | .openFile path number =>
      let path ← Eval.text (← engine.operand path)
      let number ← Eval.text (← engine.operand number)
      Eval.openFile path (some number)
      return .continue
  | .writeFile number value =>
      let number ← Eval.text (← engine.operand number)
      let value ← engine.operand value
      Eval.writeFile number value
      return .continue
  | .closeFiles [] =>
      Eval.closeAllFiles
      return .continue
  | .closeFiles numbers =>
      engine.closeNumbered numbers
      return .continue

/-- Runs statements in order. A fault becomes the error of the frame, except that of an undefined
variable, whose statement is skipped. The block stops at the first statement that leaves an error
pending. -/
def runBlock (engine : Engine) : List Statement → Eval Flow
  | [] => return .continue
  | statement :: rest => do
      Eval.tick
      match ← Eval.attempt (engine.runStatement statement) with
      | .ok .continue | .error (.undefinedVariable _) =>
          if ← Eval.mustHandleError then return .continue
          engine.runBlock rest
      | .ok flow => return flow
      | .error fault =>
          Eval.setError fault
          if ← Eval.mustHandleError then return .continue
          engine.runBlock rest

end Engine

end MacroSandbox
