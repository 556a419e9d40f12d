import MacroSandbox.Proofs.RelocatedWrites

/-! Programs whose variables hold values of one shape each.

No statement of such a program makes a list or a map hold itself, or anything else that is nested more
deeply than its shape says. -/

namespace MacroSandbox

variable (shapes : String → Shape) (functions : Std.TreeMap String LoopFunction)

/-! ## Expressions -/

/-- Arguments of these shapes go to parameters of the same shapes. Missing arguments and arguments
without a parameter do not matter. -/
def Shape.Fit : List (String × Option DeclaredType) → List Shape → Prop
  | parameter :: parameters, shape :: arguments =>
      shape = shapes parameter.1 ∧ Fit parameters arguments
  | _, _ => True

namespace LoopExpr

mutual

def HasShape : LoopExpr → Shape → Prop
  | .constant value, _ => value.isReference = false
  | .var name, shape => shape = shapes name
  | .unary _ operand, _ => ∃ inner, HasShape operand inner
  | .binary _ left right, _ => (∃ inner, HasShape left inner) ∧ ∃ inner, HasShape right inner
  | .index name indices, shape =>
      (∃ inner, HaveShapes indices inner) ∧ (shapes name).HasElement indices.length shape
  | .builtin _ routine arguments, shape =>
      ∃ inner, HaveShapes arguments inner ∧ routine.Returns inner shape
  | .call name arguments, shape =>
      ∃ inner, HaveShapes arguments inner ∧ ∀ function, functions.get? name = some function →
        shape = shapes function.name ∧ Shape.Fit shapes function.parameters inner
  | .writeMemory arguments, _ => ∃ inner, HaveShapes arguments inner

def HaveShapes : List LoopExpr → List Shape → Prop
  | [], [] => True
  | expression :: rest, shape :: inner => HasShape expression shape ∧ HaveShapes rest inner
  | _, _ => False

end

theorem length_of_haveShapes {shapes : String → Shape}
    {functions : Std.TreeMap String LoopFunction} :
    ∀ {expressions : List LoopExpr} {inner : List Shape},
      HaveShapes shapes functions expressions inner → expressions.length = inner.length
  | [], [], _ => rfl
  | _ :: _, _ :: _, has => by
      rw [HaveShapes] at has
      exact congrArg (· + 1) (length_of_haveShapes has.2)
  | [], _ :: _, has | _ :: _, [], has => by simp [HaveShapes] at has

def IsShaped (expression : LoopExpr) : Prop :=
  ∃ shape, expression.HasShape shapes functions shape

end LoopExpr

/-! ## Statements -/

def LoopDeclaration.IsShaped (declaration : LoopDeclaration) : Prop :=
  (∃ inner, LoopExpr.HaveShapes shapes functions declaration.bounds inner) ∧
    ∃ items : Shape, shapes declaration.name = items.array declaration.bounds.length

namespace LoopStatement

mutual

/-- A statement keeps the shapes of variables. -/
def IsShaped : LoopStatement → Prop
  | .dim declarations => ∀ declaration ∈ declarations, declaration.IsShaped shapes functions
  | .assign name value => value.HasShape shapes functions (shapes name)
  | .assignElement name indices value =>
      (∃ inner, LoopExpr.HaveShapes shapes functions indices inner) ∧
        ∃ stored, value.HasShape shapes functions stored ∧
          (shapes name).HasSlot indices.length stored
  | .overwrite _ start length value =>
      start.IsShaped shapes functions ∧ (∀ given ∈ length, given.IsShaped shapes functions) ∧
        value.IsShaped shapes functions
  | .evaluate expression => expression.IsShaped shapes functions
  | .branch arms otherwise => AreShapedArms arms ∧ AreShaped otherwise
  | .forRange _ start finish step body =>
      start.IsShaped shapes functions ∧ finish.IsShaped shapes functions ∧
        (∀ given ∈ step, given.IsShaped shapes functions) ∧ AreShaped body
  | .forEach index items body =>
      (∃ shape, items.HasShape shapes functions shape ∧ shape.HasItems (shapes index)) ∧
        AreShaped body
  | .conditional condition _ body =>
      (∀ test ∈ condition, test.2.IsShaped shapes functions) ∧ AreShaped body
  | .break _ | .return => True

def AreShapedArms : List LoopArm → Prop
  | [] => True
  | arm :: rest => IsShapedArm arm ∧ AreShapedArms rest

def IsShapedArm : LoopArm → Prop
  | .mk condition body => condition.IsShaped shapes functions ∧ AreShaped body

def AreShaped : List LoopStatement → Prop
  | [] => True
  | statement :: rest => IsShaped statement ∧ AreShaped rest

end

end LoopStatement

/-! ## Programs -/

/-- A program whose variables keep their shapes: they have them at first, and its code keeps them. -/
structure LoopProgram.IsShaped (heap : Heap) (program : LoopProgram) : Prop where
  initialValues : ∀ entry ∈ program.prologue.toList,
    (heap.contents entry.2).HasShape (shapes entry.1)
  functions : ∀ name function, program.functions.get? name = some function →
    LoopStatement.AreShaped shapes program.functions function.body
  body : program.body.IsShaped shapes program.functions

end MacroSandbox
