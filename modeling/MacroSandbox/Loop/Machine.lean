import MacroSandbox.Arrays
import MacroSandbox.Caches
import MacroSandbox.Library.Pure
import MacroSandbox.Library.TextFunction
import MacroSandbox.Loop.Program
import MacroSandbox.Operators
import MacroSandbox.Policy

/-! The machine that runs loop programs.

It works on copies of the program's variables and on a memory of its own, so a run that is given up
leaves nothing behind. Statements are run by recursion on their structure, loops by recursion on the
iterations that are left, and calls by recursion on the calls that the run may still nest. -/

namespace MacroSandbox

namespace Machine

/-! ## States and outcomes -/

inductive Halt
  | runaway
  /-- A fault that no statement of the loop absorbs, such as a bad bound. -/
  | failed (fault : Fault)
  | fatal (fault : Fault)
  deriving Repr, DecidableEq, Inhabited

/-- Why a part of a run ends early: a fault that a statement may absorb, or the end of the run. -/
inductive Stop
  | fault (fault : Fault)
  | halt (halt : Halt)
  deriving Repr, DecidableEq, Inhabited

inductive Flow
  | normal
  | break (kind : LoopKind)
  | return
  | faulted
  deriving Repr, DecidableEq, Inhabited

/-- What a fault inside a block does: the statement is skipped, or the innermost loop ends. -/
inductive Guard
  | skip
  | breakLoop
  deriving Repr, DecidableEq, Inhabited

structure Locals where
  values : Std.TreeMap String Value := ∅
  types : Std.TreeMap String DeclaredType := ∅
  deriving Inhabited

structure State where
  heap : Heap
  limiter : Limiter
  store : Std.TreeMap String Value
  types : Std.TreeMap String DeclaredType
  locals : Option Locals := none
  memory : Memory := {}
  iterations : Nat := 0
  faults : Nat := 0
  deriving Inhabited

structure Setup where
  program : LoopProgram
  maxIterations : Nat
  maxFaults : Nat

end Machine

abbrev Machine (α : Type) := ReaderT Machine.Setup (EStateM Machine.Stop Machine.State) α

namespace Machine

/-! ## Ending early -/

def Stop.ofFault (fault : Fault) : Stop :=
  if fault.isFatal then .halt (.fatal fault) else .fault fault

def raise {α : Type} (fault : Fault) : Machine α :=
  throw (Stop.ofFault fault)

@[inline] def lift {α : Type} : Except Fault α → Machine α
  | .ok value => pure value
  | .error fault => raise fault

@[inline] def tick : Machine Unit := fun _ state =>
  let (outcome, limiter) := state.limiter.tick
  let state := { state with limiter }
  match outcome with
  | .ok () => .ok () state
  | .error fault => .error (Stop.ofFault fault) state

@[inline] def countIteration : Machine Unit := do
  modify fun state => { state with iterations := state.iterations + 1 }
  if (← read).maxIterations < (← get).iterations then throw (.halt .runaway)
  tick

def countFault : Machine Unit := do
  modify fun state => { state with faults := state.faults + 1 }
  if (← read).maxFaults < (← get).faults then throw (.halt .runaway)

/-- Runs a statement of a block so that a fault in it does what `guard` says. -/
@[inline] def guarded (guard : Guard) (statement : Machine Flow) : Machine Flow :=
  fun setup state =>
    match statement setup state with
    | .ok flow state => .ok flow state
    | .error (.halt halt) state => .error (.halt halt) state
    | .error (.fault _) state =>
        match countFault setup state with
        | .error stop state => .error stop state
        | .ok () state =>
            match guard with
            | .skip => .ok .normal state
            | .breakLoop => .ok .faulted state

/-! ## Variables -/

/-- The value of a variable: a local one, or one of the program if it can be seen from here. A name
without a value is null. -/
def load (name : String) : Machine Value := fun setup state =>
  let ofProgram := (state.store.get? name).getD .null
  let value := match state.locals with
    | none => ofProgram
    | some locals =>
        match locals.values.get? name with
        | some value => value
        | none => if setup.program.shared.contains name then ofProgram else .null
  .ok value state

@[inline] def storeInProgram (state : State) (name : String) (value : Value) : State :=
  let value := state.heap.coerceTo (state.types.get? name) value
  { state with store := state.store.insert name value }

def storeInLocals (state : State) (locals : Locals) (name : String) (value : Value) : State :=
  let value := state.heap.coerceTo (locals.types.get? name) value
  { state with locals := some { locals with values := locals.values.insert name value } }

/-- Assigns to a variable. In a function, a name that the program does not share is local. -/
def store (name : String) (value : Value) : Machine Unit := fun setup state =>
  match state.locals with
  | none => .ok () (storeInProgram state name value)
  | some locals =>
      if !locals.values.contains name && setup.program.shared.contains name &&
          state.store.contains name then .ok () (storeInProgram state name value)
      else .ok () (storeInLocals state locals name value)

def insertOptional {α : Type} (table : Std.TreeMap String α) (name : String) :
    Option α → Std.TreeMap String α
  | some entry => table.insert name entry
  | none => table

def bindHere (name : String) (value : Value) (type : Option DeclaredType) : Machine Unit :=
  modify fun state =>
    match state.locals with
    | some locals =>
        { state with
          locals := some
            { values := locals.values.insert name value
              types := insertOptional locals.types name type } }
    | none =>
        { state with
          store := state.store.insert name value
          types := insertOptional state.types name type }

def isBoundHere (state : State) (name : String) : Bool :=
  match state.locals with
  | some locals => locals.values.contains name
  | none => state.store.contains name

/-- Changes the heap by a computation that may fail. The computation is the only owner of the heap,
so it can change it in place. -/
@[inline] def onHeap {α : Type} (compute : Heap → Except Fault α × Heap) : Machine α :=
  fun _ state =>
    let heap := state.heap
    let state := { state with heap := {} }
    match compute heap with
    | (.ok value, heap) => .ok value { state with heap }
    | (.error fault, heap) => .error (Stop.ofFault fault) { state with heap }

/-! ## Expressions -/

abbrev Calls := String → List Value → Machine Value

mutual

def evaluate (calls : Calls) : LoopExpr → Machine Value
  | .constant value => fun _ state =>
      let (value, heap) := state.heap.copy value
      .ok value { state with heap }
  | .var name => load name
  | .unary operator operand => do
      let operand ← evaluate calls operand
      pure (operator.apply operand)
  | .binary operator left right => do
      let left ← evaluate calls left
      let right ← evaluate calls right
      lift (operator.apply (← get).heap left right)
  | .index name indices => do
      let indices ← evaluateAll calls indices
      let target ← load name
      lift (indexValue (← get).heap target indices)
  | .builtin _ routine arguments => do
      let arguments ← evaluateAll calls arguments
      onHeap (routine.apply arguments)
  | .call name arguments => do
      let arguments ← evaluateAll calls arguments
      calls name arguments
  | .writeMemory arguments => do
      let arguments ← evaluateAll calls arguments
      modify fun state =>
        let move := moveOf state.heap (argument arguments 0) (argument arguments 1)
          (argument arguments 2)
        { state with memory := state.memory.write move }
      pure (.integer 0)

def evaluateAll (calls : Calls) : List LoopExpr → Machine (List Value)
  | [] => pure []
  | expression :: rest => do
      let value ← evaluate calls expression
      let values ← evaluateAll calls rest
      pure (value :: values)

end

def evaluateOptional (calls : Calls) : Option LoopExpr → Machine (Option Value)
  | none => pure none
  | some expression => some <$> evaluate calls expression

/-! ## Simple statements -/

/-- The initial value of a declared variable. The bounds of an array are evaluated first. -/
def initialValue (calls : Calls) (declaration : LoopDeclaration) : Machine Value := do
  match declaration.bounds with
  | [] => return DeclaredType.initial declaration.type
  | bounds =>
      let bounds ← evaluateAll calls bounds
      onHeap fun heap => newArray heap (bounds.map dimensionOfBound) declaration.type

def declare (calls : Calls) (declaration : LoopDeclaration) : Machine Unit := do
  if isBoundHere (← get) declaration.name then return
  let value ← initialValue calls declaration
  bindHere declaration.name value declaration.type

def declareAll (calls : Calls) : List LoopDeclaration → Machine Unit
  | [] => pure ()
  | declaration :: rest => do
      declare calls declaration
      declareAll calls rest

def updateElement (target : Value) (indices : List Value) (value : Value) : Machine Unit := do
  let slot ← lift (growingSlot (← get).heap target indices)
  modify fun state => { state with heap := state.heap.write slot value }

def assignElement (calls : Calls) (name : String) (indices : List LoopExpr) (value : LoopExpr) :
    Machine Unit := do
  let value ← evaluate calls value
  let indices ← evaluateAll calls indices
  let target ← load name
  updateElement target indices value

def overwriteText (calls : Calls) (name : String) (start : LoopExpr) (length : Option LoopExpr)
    (value : LoopExpr) : Machine Unit := do
  let value ← evaluate calls value
  let replacement := (← get).heap.text value
  let start := (← evaluate calls start).toInteger.toInt
  let length := (← evaluateOptional calls length).map fun length => length.toInteger.toInt
  let variableValue ← load name
  let current := (← get).heap.text variableValue
  let updated ← lift (TextFunction.overwrite current start length replacement)
  store name (.text updated)

/-! ## Loops

The number of iterations left bounds the recursion; `countIteration` ends the run before it is used
up. -/

def pastEnd (descending : Bool) : Option Ordering → Bool
  | some .gt => !descending
  | some .lt => descending
  | _ => false

def advance (index : String) (step : Value) : Machine Unit := do
  let current ← load index
  let next ← lift (BinaryOperator.add.apply (← get).heap current step)
  store index next

def rangeLoop (body : Machine Flow) (index : String) (finish step : Value) (descending : Bool) :
    (left : Nat) → Machine Flow
  | 0 => throw (.halt .runaway)
  | left + 1 => do
      let current ← load index
      if pastEnd descending (compareValues (← get).heap current finish) then return .normal
      countIteration
      match ← body with
      | .normal =>
          advance index step
          rangeLoop body index finish step descending left
      | .break .for | .faulted => return .normal
      | flow => return flow

def eachLoop (body : Machine Flow) (index : String) : List Value → Machine Flow
  | [] => return .normal
  | item :: rest => do
      countIteration
      store index item
      match ← body with
      | .normal => eachLoop body index rest
      | .break .for | .faulted => return .normal
      | flow => return flow

def goesOn (calls : Calls) : Option (LoopTest × LoopExpr) → Machine Bool
  | none => pure true
  | some (.while, condition) => do
      let value ← evaluate calls condition
      return (← get).heap.isTruthy value
  | some (.until, condition) => do
      let value ← evaluate calls condition
      return !(← get).heap.isTruthy value

def testWhen (tested : Bool) (condition : Machine Bool) : Machine Bool :=
  if tested then condition else pure true

def conditionalLoop (body : Machine Flow) (condition : Machine Bool) (testFirst : Bool) :
    (left : Nat) → Machine Flow
  | 0 => throw (.halt .runaway)
  | left + 1 => do
      if !(← testWhen testFirst condition) then return .normal
      countIteration
      match ← body with
      | .normal =>
          if !(← testWhen (!testFirst) condition) then return .normal
          conditionalLoop body condition testFirst left
      | .break .do | .faulted => return .normal
      | flow => return flow

/-! ## Statements -/

/-- What a fault does in the body of a loop: only the outermost loop of the program skips
statements. -/
def bodyGuard (nested : Bool) : Guard :=
  if nested then .breakLoop else .skip

mutual

/-- Runs a statement. `nested` says whether it stands inside a loop or a function. -/
def execute (calls : Calls) (nested : Bool) (guard : Guard) : LoopStatement → Machine Flow
  | .dim declarations => do
      tick
      declareAll calls declarations
      return .normal
  | .assign name value => do
      tick
      let value ← evaluate calls value
      store name value
      return .normal
  | .assignElement name indices value => do
      tick
      assignElement calls name indices value
      return .normal
  | .overwrite name start length value => do
      tick
      overwriteText calls name start length value
      return .normal
  | .evaluate expression => do
      tick
      let _ ← evaluate calls expression
      return .normal
  | .branch arms otherwise => do
      tick
      executeArms calls nested guard (executeBlock calls nested guard otherwise) arms
  | .forRange index start finish step body => do
      tick
      let start := (← evaluate calls start).toNumber
      let finish := (← evaluate calls finish).toNumber
      let step := ((← evaluateOptional calls step).getD (.integer 1)).toNumber
      store index start
      rangeLoop (executeBlock calls true (bodyGuard nested) body) index finish step
        (step.toFloat < 0.0) ((← read).maxIterations + 1)
  | .forEach index items body => do
      tick
      let items ← evaluate calls items
      let items ← lift (iterationItems (← get).heap items)
      eachLoop (executeBlock calls true (bodyGuard nested) body) index items
  | .conditional condition testFirst body => do
      tick
      conditionalLoop (executeBlock calls true (bodyGuard nested) body) (goesOn calls condition)
        testFirst ((← read).maxIterations + 1)
  | .break kind => do
      tick
      return .break kind
  | .return => do
      tick
      return .return

def executeArms (calls : Calls) (nested : Bool) (guard : Guard) (otherwise : Machine Flow) :
    List LoopArm → Machine Flow
  | [] => otherwise
  | arm :: rest => executeArm calls nested guard (executeArms calls nested guard otherwise rest) arm

def executeArm (calls : Calls) (nested : Bool) (guard : Guard) (otherwise : Machine Flow) :
    LoopArm → Machine Flow
  | .mk condition body => do
      let value ← evaluate calls condition
      if (← get).heap.isTruthy value then executeBlock calls nested guard body else otherwise

def executeBlock (calls : Calls) (nested : Bool) (guard : Guard) :
    List LoopStatement → Machine Flow
  | [] => return .normal
  | statement :: rest => do
      match ← guarded guard (execute calls nested guard statement) with
      | .normal => executeBlock calls nested guard rest
      | flow => return flow

end

/-! ## Calls -/

/-- Binds parameters to arguments. A missing argument is null. -/
def bindParameters : List (String × Option DeclaredType) → List Value → Machine Unit
  | [], _ => pure ()
  | (name, type) :: rest, arguments => do
      let value := (← get).heap.coerceTo type (arguments.headD .null)
      bindHere name value type
      bindParameters rest arguments.tail

def bindResult (function : LoopFunction) : Machine Unit :=
  if function.returnsValue then
    bindHere function.name (DeclaredType.initial function.returnType) function.returnType
  else pure ()

def resultOf (function : LoopFunction) : Machine Value := fun _ state =>
  let bound := state.locals.bind fun locals => locals.values.get? function.name
  .ok (if function.returnsValue then bound.getD .null else .null) state

def runFunction (calls : Calls) (function : LoopFunction) (arguments : List Value) :
    Machine Value := do
  bindResult function
  bindParameters function.parameters arguments
  let _ ← executeBlock calls true .skip function.body
  resultOf function

/-- Calls a function of the program; `left` bounds how deep calls may still nest. The variables of
the caller are in place again afterwards, however the call ends. -/
def callFunction : (left : Nat) → Calls
  | left, name, arguments => fun setup state =>
      match setup.program.functions.get? name with
      | none =>
          .error (Stop.ofFault (.invalidCall ("procedure " ++ name ++ " is not available"))) state
      | some function =>
        match left with
        | 0 => .error (.halt (.fatal (.recursionLimit (state.limiter.depth + 1)))) state
        | left + 1 =>
          match state.limiter.enter with
          | .error fault => .error (Stop.ofFault fault) state
          | .ok limiter =>
              let caller := state.locals
              let entered := { state with limiter, locals := some {} }
              match runFunction (callFunction left) function arguments setup entered with
              | .ok value after =>
                  .ok value { after with locals := caller, limiter := after.limiter.leave }
              | .error stop after =>
                  .error stop { after with locals := caller, limiter := after.limiter.leave }

/-! ## Runs -/

def copyPrologue (heap : Heap) (prologue : Std.TreeMap String Value) :
    Std.TreeMap String Value × Heap :=
  let contents := prologue.toList.map fun entry => heap.contents entry.2
  let (values, heap) := Datum.buildAll contents heap #[]
  (Std.TreeMap.ofList (prologue.keys.zip values.toList), heap)

def start (program : LoopProgram) (heap : Heap) (limiter : Limiter) : State :=
  let (store, heap) := copyPrologue heap program.prologue
  { heap, limiter, store, types := program.types }

def result (program : LoopProgram) (state : State) : LoopResult :=
  { updates := program.captures.toList.filterMap fun name =>
      (state.store.get? name).map fun value => (name, state.heap.contents value)
    memory := state.memory }

def run (program : LoopProgram) (policy : Policy) (heap : Heap) (limiter : Limiter) :
    Except Halt LoopResult × State :=
  let setup : Setup :=
    { program, maxIterations := policy.maxCompiledIterations, maxFaults := policy.maxLoopFaults }
  let calls := callFunction (limiter.maxDepth - limiter.depth)
  match execute calls false .skip program.body setup (start program heap limiter) with
  | .ok _ state => (.ok (result program state), state)
  | .error (.halt halt) state => (.error halt, state)
  | .error (.fault fault) state => (.error (.failed fault), state)

end Machine

end MacroSandbox
