import MacroSandbox.Loop.Machine

/-! The machine with fuel.

A loop makes as many rounds as there is fuel, and calls nest as deep. If the fuel is used up, there is no
result at all, so a run ends if it has a result for some amount of fuel. Apart from that a loop goes on
until its condition, its body or a limit of the policy ends it, and a call until its function ends. What
happens is counted twice: in the state of the machine, which compares its counts with the limits, and in a
tally that nothing of the run reads. -/

namespace MacroSandbox

namespace Machine

/-- What happened in a run. -/
structure Tally where
  rounds : Nat := 0
  /-- The faults that occurred, except for those that end the whole emulation. -/
  faults : Nat := 0
  absorbed : Nat := 0
  deriving Repr, DecidableEq, Inhabited

def Tally.stopped (tally : Tally) : Stop → Tally
  | .fault _ => { tally with faults := tally.faults + 1 }
  | .halt _ => tally

/-- A part of a run with fuel. It has no result if the fuel is used up. -/
abbrev Fuelled (α : Type) := ReaderT Setup (ExceptT Stop (StateT (Tally × State) Option)) α

namespace Fuelled

variable {α β : Type}

theorem run_bind (first : Fuelled α) (next : α → Fuelled β) (setup : Setup)
    (start : Tally × State) :
    (first >>= next) setup start =
      match first setup start with
      | none => none
      | some (.ok value, after) => next value setup after
      | some (.error stop, after) => some (.error stop, after) := by
  change Option.bind (first setup start) _ = _
  rcases first setup start with _ | ⟨_ | _, _⟩ <;> rfl

def exhausted : Fuelled α :=
  fun _ _ => none

def part (machine : Machine α) : Fuelled α := fun setup (tally, state) =>
  match machine setup state with
  | .ok value after => some (.ok value, tally, after)
  | .error stop after => some (.error stop, tally.stopped stop, after)

def beginRound : Fuelled Unit := do
  modify fun (tally, state) => ({ tally with rounds := tally.rounds + 1 }, state)
  part countIteration

def absorb (guard : Guard) : Fuelled Flow := do
  modify fun (tally, state) => ({ tally with absorbed := tally.absorbed + 1 }, state)
  part countFault
  match guard with
  | .skip => pure .normal
  | .breakLoop => pure .faulted

def guarded (guard : Guard) (statement : Fuelled Flow) : Fuelled Flow := fun setup start =>
  match statement setup start with
  | some (.error (.fault _), after) => absorb guard setup after
  | ended => ended

theorem absorb_eq (guard : Guard) (setup : Setup) (tally : Tally) (state : State) :
    absorb guard setup (tally, state) =
      (part countFault >>= fun _ =>
        match guard with
        | .skip => pure .normal
        | .breakLoop => pure .faulted)
        setup ({ tally with absorbed := tally.absorbed + 1 }, state) :=
  rfl

/-! ## Expressions and simple statements -/

abbrev Calls := String → List Value → Fuelled Value

mutual

def evaluate (calls : Calls) : LoopExpr → Fuelled Value
  | .constant value => part fun _ state =>
      let (value, heap) := state.heap.copy value
      .ok value { state with heap }
  | .var name => part (load name)
  | .unary operator operand => do
      let operand ← evaluate calls operand
      pure (operator.apply operand)
  | .binary operator left right => do
      let left ← evaluate calls left
      let right ← evaluate calls right
      part do lift (operator.apply (← get).heap left right)
  | .index name indices => do
      let indices ← evaluateAll calls indices
      part do
        let target ← load name
        lift (indexValue (← get).heap target indices)
  | .builtin _ routine arguments => do
      let arguments ← evaluateAll calls arguments
      part (onHeap (routine.apply arguments))
  | .call name arguments => do
      let arguments ← evaluateAll calls arguments
      calls name arguments
  | .writeMemory arguments => do
      let arguments ← evaluateAll calls arguments
      part do
        modify fun state =>
          let move := moveOf state.heap (argument arguments 0) (argument arguments 1)
            (argument arguments 2)
          { state with memory := state.memory.write move }
        pure (.integer 0)

def evaluateAll (calls : Calls) : List LoopExpr → Fuelled (List Value)
  | [] => pure []
  | expression :: rest => do
      let value ← evaluate calls expression
      let values ← evaluateAll calls rest
      pure (value :: values)

end

def evaluateOptional (calls : Calls) : Option LoopExpr → Fuelled (Option Value)
  | none => pure none
  | some expression => some <$> evaluate calls expression

def initialValue (calls : Calls) (declaration : LoopDeclaration) : Fuelled Value := do
  match declaration.bounds with
  | [] => return DeclaredType.initial declaration.type
  | bounds =>
      let bounds ← evaluateAll calls bounds
      part (onHeap fun heap => newArray heap (bounds.map dimensionOfBound) declaration.type)

def declare (calls : Calls) (declaration : LoopDeclaration) : Fuelled Unit := do
  if isBoundHere (← get).2 declaration.name then return
  let value ← initialValue calls declaration
  part (bindHere declaration.name value declaration.type)

def declareAll (calls : Calls) : List LoopDeclaration → Fuelled Unit
  | [] => pure ()
  | declaration :: rest => do
      declare calls declaration
      declareAll calls rest

def assignElement (calls : Calls) (name : String) (indices : List LoopExpr) (value : LoopExpr) :
    Fuelled Unit := do
  let value ← evaluate calls value
  let indices ← evaluateAll calls indices
  part do
    let target ← load name
    let slot ← lift (growingSlot (← get).heap target indices)
    modify fun state => { state with heap := state.heap.write slot value }

def overwriteText (calls : Calls) (name : String) (start : LoopExpr) (length : Option LoopExpr)
    (value : LoopExpr) : Fuelled Unit := do
  let value ← evaluate calls value
  let replacement := (← get).2.heap.text value
  let start := (← evaluate calls start).toInteger.toInt
  let length := (← evaluateOptional calls length).map fun length => length.toInteger.toInt
  part do
    let variableValue ← load name
    let current := (← get).heap.text variableValue
    let updated ← lift (TextFunction.overwrite current start length replacement)
    store name (.text updated)

/-! ## Loops -/

def rangeLoop (body : Fuelled Flow) (index : String) (finish step : Value) (descending : Bool) :
    (fuel : Nat) → Fuelled Flow
  | 0 => exhausted
  | fuel + 1 => do
      let current ← part (load index)
      if pastEnd descending (compareValues (← get).2.heap current finish) then return .normal
      beginRound
      match ← body with
      | .normal =>
          part (advance index step)
          rangeLoop body index finish step descending fuel
      | .break .for | .faulted => return .normal
      | flow => return flow

def eachLoop (body : Fuelled Flow) (index : String) : List Value → Fuelled Flow
  | [] => return .normal
  | item :: rest => do
      beginRound
      part (store index item)
      match ← body with
      | .normal => eachLoop body index rest
      | .break .for | .faulted => return .normal
      | flow => return flow

def goesOn (calls : Calls) (tested : Bool) (condition : Option (LoopTest × LoopExpr)) :
    Fuelled Bool := do
  if !tested then return true
  match condition with
  | none => return true
  | some (.while, condition) =>
      let value ← evaluate calls condition
      return (← get).2.heap.isTruthy value
  | some (.until, condition) =>
      let value ← evaluate calls condition
      return !(← get).2.heap.isTruthy value

def conditionalLoop (body : Fuelled Flow) (goesOn : (tested : Bool) → Fuelled Bool)
    (testFirst : Bool) : (fuel : Nat) → Fuelled Flow
  | 0 => exhausted
  | fuel + 1 => do
      if !(← goesOn testFirst) then return .normal
      beginRound
      match ← body with
      | .normal =>
          if !(← goesOn !testFirst) then return .normal
          conditionalLoop body goesOn testFirst fuel
      | .break .do | .faulted => return .normal
      | flow => return flow

/-! ## Statements -/

mutual

def execute (calls : Calls) (fuel : Nat) (nested : Bool) (guard : Guard) :
    LoopStatement → Fuelled Flow
  | .dim declarations => do
      part tick
      declareAll calls declarations
      return .normal
  | .assign name value => do
      part tick
      let value ← evaluate calls value
      part (store name value)
      return .normal
  | .assignElement name indices value => do
      part tick
      assignElement calls name indices value
      return .normal
  | .overwrite name start length value => do
      part tick
      overwriteText calls name start length value
      return .normal
  | .evaluate expression => do
      part tick
      let _ ← evaluate calls expression
      return .normal
  | .branch arms otherwise => do
      part tick
      executeArms calls fuel nested guard (executeBlock calls fuel nested guard otherwise) arms
  | .forRange index start finish step body => do
      part tick
      let start := (← evaluate calls start).toNumber
      let finish := (← evaluate calls finish).toNumber
      let step := ((← evaluateOptional calls step).getD (.integer 1)).toNumber
      part (store index start)
      rangeLoop (executeBlock calls fuel true (bodyGuard nested) body) index finish step
        (step.toFloat < 0.0) fuel
  | .forEach index items body => do
      part tick
      let items ← evaluate calls items
      let items ← part do lift (iterationItems (← get).heap items)
      eachLoop (executeBlock calls fuel true (bodyGuard nested) body) index items
  | .conditional condition testFirst body => do
      part tick
      conditionalLoop (executeBlock calls fuel true (bodyGuard nested) body)
        (goesOn calls · condition) testFirst fuel
  | .break kind => do
      part tick
      return .break kind
  | .return => do
      part tick
      return .return

def executeArms (calls : Calls) (fuel : Nat) (nested : Bool) (guard : Guard)
    (otherwise : Fuelled Flow) : List LoopArm → Fuelled Flow
  | [] => otherwise
  | arm :: rest =>
      executeArm calls fuel nested guard (executeArms calls fuel nested guard otherwise rest) arm

def executeArm (calls : Calls) (fuel : Nat) (nested : Bool) (guard : Guard)
    (otherwise : Fuelled Flow) : LoopArm → Fuelled Flow
  | .mk condition body => do
      let value ← evaluate calls condition
      if (← get).2.heap.isTruthy value then executeBlock calls fuel nested guard body
      else otherwise

def executeBlock (calls : Calls) (fuel : Nat) (nested : Bool) (guard : Guard) :
    List LoopStatement → Fuelled Flow
  | [] => return .normal
  | statement :: rest => do
      match ← guarded guard (execute calls fuel nested guard statement) with
      | .normal => executeBlock calls fuel nested guard rest
      | flow => return flow

end

/-! ## Calls and runs -/

def runFunction (calls : Calls) (fuel : Nat) (function : LoopFunction) (arguments : List Value) :
    Fuelled Value := do
  part (bindResult function)
  part (bindParameters function.parameters arguments)
  let _ ← executeBlock calls fuel true .skip function.body
  part (resultOf function)

def callFunction (fuel : Nat) : (deep : Nat) → Calls
  | deep, name, arguments => fun setup (tally, state) =>
      match setup.program.functions.get? name with
      | none =>
          part (raise (.invalidCall ("procedure " ++ name ++ " is not available"))) setup
            (tally, state)
      | some function =>
        match state.limiter.enter with
        | .error fault => part (raise fault) setup (tally, state)
        | .ok limiter =>
          match deep with
          | 0 => exhausted setup (tally, state)
          | deep + 1 => do
              let (ended, tally, after) ← runFunction (callFunction fuel deep) fuel function
                arguments setup (tally, { state with limiter, locals := some {} })
              some (ended, tally,
                { after with locals := state.locals, limiter := after.limiter.leave })

/-- Runs a program: its result, or why it has none, the state at the end, and what happened. There is none
of this if the fuel is used up. -/
def run (fuel : Nat) (program : LoopProgram) (policy : Policy) (heap : Heap) (limiter : Limiter) :
    Option ((Except Halt LoopResult × State) × Tally) := do
  let setup : Setup :=
    { program, maxIterations := policy.maxCompiledIterations, maxFaults := policy.maxLoopFaults }
  match ← execute (callFunction fuel fuel) fuel false .skip program.body setup
      ({}, start program heap limiter) with
  | (.ok _, tally, state) => some ((.ok (result program state), state), tally)
  | (.error (.halt halt), tally, state) => some ((.error halt, state), tally)
  | (.error (.fault fault), tally, state) => some ((.error (.failed fault), state), tally)

end Fuelled

end Machine

end MacroSandbox
