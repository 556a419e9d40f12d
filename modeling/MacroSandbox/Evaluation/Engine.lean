import MacroSandbox.Evaluation.Monad

/-! The interpreter one level down.

Statements hold expressions, expressions call procedures, and procedures hold statements. Each part
of the interpreter is written against an engine that evaluates what is nested inside, so that the
parts can be read one by one; the knot is tied in one place. -/

namespace MacroSandbox

structure Engine where
  node : Expr → Eval Value
  /-- Evaluates an operand, which may also be a cell or a text of the document. -/
  operand : Expr → Eval Value
  block : List Statement → Eval Flow
  call : Procedure → List Value → Eval Value

namespace Engine

def exhausted : Engine where
  node _ := throw .exhausted
  operand _ := throw .exhausted
  block _ := throw .exhausted
  call _ _ := throw .exhausted

def operands (engine : Engine) : List Expr → Eval (List Value)
  | [] => pure []
  | expression :: rest => do
      let value ← engine.operand expression
      let values ← engine.operands rest
      return value :: values

end Engine

end MacroSandbox
