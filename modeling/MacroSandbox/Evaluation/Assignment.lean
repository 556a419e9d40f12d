import MacroSandbox.Evaluation.Expression

/-! Declarations and assignments. -/

namespace MacroSandbox

def Eval.storeElement (container : Value) (indices : List Value) (value : Value) : Eval Unit := do
  let heap := (← get).heap
  let slot ← match container with
    | .map place => pure (entrySlot heap place indices)
    | other => Eval.lift (elementSlot heap other indices)
  modify fun state => { state with heap := state.heap.write slot value }

namespace Engine

/-! ## Declarations -/

/-- The initial value of a declared variable. The bounds of an array are evaluated first. -/
def initialValue (engine : Engine) (declaration : Declaration) : Eval Value := do
  match declaration.bounds with
  | [] => return DeclaredType.initial declaration.type
  | bounds =>
      let bounds ← engine.operands bounds
      Eval.onHeap fun heap => newArray heap (bounds.map dimensionOfBound) declaration.type

def declare (engine : Engine) : List Declaration → Eval Unit
  | [] => pure ()
  | declaration :: rest => do
      let value ← engine.initialValue declaration
      let placement := if (← get).frame.inProcedure then Placement.local else Placement.global
      Eval.assignVariable placement declaration.type declaration.name value
      engine.declare rest

/-! ## Assignments -/

def assignMiddle (engine : Engine) (arguments : List Expr) (value : Value) : Eval Unit := do
  match arguments with
  | .var name :: start :: rest =>
      let current ← Eval.text (← Eval.lift ((← Eval.scope).get name))
      let start ← engine.operand start
      let count ← match rest with
        | [] => pure none
        | count :: _ => some <$> engine.operand count
      let replacement ← Eval.text value
      let updated ← Eval.lift (TextFunction.overwrite current start.toInteger.toInt
        (count.map fun count => count.toInteger.toInt) replacement)
      Eval.setVariable name (.text updated)
  | _ => Eval.raise (.invalidCall "Mid statement needs a variable and a start")

def assignElement (engine : Engine) (container : Value) (arguments : List Expr) (value : Value) :
    Eval Unit := do
  let indices ← engine.operands arguments
  Eval.storeElement container indices value

/-- Assigns a value to a variable, to an element, to a part of a text, or to the variable that is
named by the source text of the target. -/
def assign (engine : Engine) (target : Expr) (value : Value) : Eval Unit := do
  let setNamed : Eval Unit := do Eval.setVariable (target.render (← get).heap) value
  match target with
  | .var name => Eval.setVariable name value
  | .call (.var name) arguments =>
      if Text.sameIgnoringCase name "mid" || Text.sameIgnoringCase name "mid$" then
        engine.assignMiddle arguments value
      else
        match (← Eval.lookup? name).filter isContainer with
        | some container => engine.assignElement container arguments value
        | none => setNamed
  | .call .. | .member .. => setNamed
  | other =>
      Eval.raise (.invalidCall ("cannot assign to `" ++ other.render (← get).heap ++ "`"))

end Engine

end MacroSandbox
