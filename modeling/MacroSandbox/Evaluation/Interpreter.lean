import MacroSandbox.Evaluation.Call

/-! The interpreter: the parts of the evaluation tied together. -/

namespace MacroSandbox

namespace Engine

def within : (levels : Nat) → Engine
  | 0 => exhausted
  | levels + 1 =>
      { node := fun expression => (within levels).nodeValue expression
        operand := fun expression => (within levels).operandValue expression
        block := fun statements => (within levels).runBlock statements
        call := fun procedure arguments => (within levels).callProcedure procedure arguments }

/-- How deep the evaluation of a program may nest. No program that a host can hold nests deeper. -/
def maxNesting : Nat := 0x4000000000000000

def interpreter : Engine := within maxNesting

end Engine

/-! ## Evaluations by the interpreter -/

namespace Eval

def node (expression : Expr) : Eval Value := Engine.interpreter.nodeValue expression

def operand (expression : Expr) : Eval Value := Engine.interpreter.operandValue expression

def resolve (variableExpected : Bool) (name : String) : Eval Value :=
  Engine.interpreter.resolve variableExpected name

def statement (statement : Statement) : Eval Flow := Engine.interpreter.runStatement statement

def block (statements : List Statement) : Eval Flow := Engine.interpreter.runBlock statements

def call (procedure : Procedure) (arguments : List Value) : Eval Value :=
  Engine.interpreter.callProcedure procedure arguments

def handleError : Eval Unit := Engine.interpreter.handleError

def receiverValue? : Eval (Option Value) := Engine.interpreter.receiverValue?

end Eval

end MacroSandbox
