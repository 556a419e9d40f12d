import MacroSandbox.Heap
import MacroSandbox.Program.Node

/-! Programs as source text. -/

namespace MacroSandbox

/-! ## Expressions -/

def Heap.literalWithin (heap : Heap) : (depth : Nat) → Value → String
  | _, .text value => "\"" ++ Text.replace "\"" "\"\"" value ++ "\""
  | _, .integer value => toString value.toInt
  | _, .float value => floatText value
  | _, .boolean value => Value.booleanText value
  | 0, .list _ => "Array()"
  | depth + 1, .list place =>
      let items := (heap.list place).toList.map (heap.literalWithin depth)
      "Array(" ++ String.intercalate ", " items ++ ")"
  | _, .null | _, .unresolved => "Null"
  | _, .map _ => "Nothing"
  | _, .object _ className => "CreateObject(\"" ++ className ++ "\")"

def Heap.literal (heap : Heap) (value : Value) : String :=
  heap.literalWithin heap.depthBound value

namespace Expr

/-- Whether an operand needs parentheses: it binds more loosely than the operator around it, or
equally and stands on the right. -/
def needsParentheses (operand : Expr) (parent : BinaryOperator) (onRight : Bool) : Bool :=
  match operand with
  | .binary operator .. =>
      operator.precedence < parent.precedence ||
        (onRight && operator.precedence == parent.precedence)
  | _ => false

def parenthesize (needed : Bool) (text : String) : String :=
  if needed then "(" ++ text ++ ")" else text

def isBinary : Expr → Bool
  | .binary .. => true
  | _ => false

mutual

def render (heap : Heap) : Expr → String
  | .literal value => heap.literal value
  | .var name => name
  | .receiver => ""
  | .unary .negate operand => "-" ++ parenthesize operand.isBinary (render heap operand)
  | .unary .complement operand => "Not " ++ render heap operand
  | .binary operator left right =>
      parenthesize (left.needsParentheses operator false) (render heap left) ++
        " " ++ operator.symbol ++ " " ++
        parenthesize (right.needsParentheses operator true) (render heap right)
  | .member object name => render heap object ++ "." ++ name
  | .call callee arguments =>
      render heap callee ++ "(" ++ String.intercalate ", " (renderList heap arguments) ++ ")"

def renderList (heap : Heap) : List Expr → List String
  | [] => []
  | expression :: rest => render heap expression :: renderList heap rest

end

end Expr

/-! ## Statements -/

def Declaration.render (heap : Heap) (declaration : Declaration) : String :=
  let bounds := match declaration.bounds with
    | [] => ""
    | bounds => "(" ++ String.intercalate ", " (Expr.renderList heap bounds) ++ ")"
  let type := match declaration.type with
    | some type => " As " ++ type.name
    | none => ""
  declaration.name ++ bounds ++ type

def LoopTest.renderCondition (heap : Heap) : Option (LoopTest × Expr) → String
  | none => ""
  | some (.while, condition) => " While " ++ condition.render heap
  | some (.until, condition) => " Until " ++ condition.render heap

/-- The lines of a text, each moved two columns to the right and ended. -/
def indentLines (text : String) : String :=
  String.join ((Text.lines text).map fun line => "  " ++ line ++ "\n")

namespace Statement

mutual

def render (heap : Heap) : Statement → String
  | .dim declarations =>
      "Dim " ++ String.intercalate ", " (declarations.map (·.render heap))
  | .assign target value => target.render heap ++ " = " ++ value.render heap
  | .call expression => expression.render heap
  | .branch arms otherwise =>
      renderArms heap "If " arms ++
        (match otherwise with
         | [] => ""
         | statement :: rest => "Else\n" ++ renderBlock heap (statement :: rest)) ++
        "End If"
  | .forRange index start finish step body =>
      let stepText := match step with
        | some step => " Step " ++ step.render heap
        | none => ""
      "For " ++ index ++ " = " ++ start.render heap ++ " To " ++ finish.render heap ++
        stepText ++ "\n" ++ renderBlock heap body ++ "Next " ++ index
  | .forEach index items body =>
      "For Each " ++ index ++ " In " ++ items.render heap ++ "\n" ++ renderBlock heap body ++
        "Next " ++ index
  | .whileLoop condition body =>
      "While " ++ condition.render heap ++ "\n" ++ renderBlock heap body ++ "Wend"
  | .doLoop condition testFirst body =>
      let test := LoopTest.renderCondition heap condition
      let (before, after) := if testFirst then (test, "") else ("", test)
      "Do" ++ before ++ "\n" ++ renderBlock heap body ++ "Loop" ++ after
  | .withBlock object body =>
      "With " ++ object.render heap ++ "\n" ++ renderBlock heap body ++ "End With"
  | .onError .resumeNext => "On Error Resume Next"
  | .onError .disable => "On Error GoTo 0"
  | .onError (.label name) => "On Error GoTo " ++ name
  | .label name => name ++ ":"
  | .exit .for => "Exit For"
  | .exit .do => "Exit Do"
  | .exit .sub => "Exit Sub"
  | .exit .function => "Exit Function"
  | .openFile path fileNumber =>
      "Open " ++ path.render heap ++ " For Binary As #" ++ fileNumber.render heap
  | .writeFile fileNumber value =>
      "Put #" ++ fileNumber.render heap ++ ", , " ++ value.render heap
  | .closeFiles [] => "Close"
  | .closeFiles fileNumbers =>
      "Close " ++ String.intercalate ", " ((Expr.renderList heap fileNumbers).map ("#" ++ ·))

def renderArms (heap : Heap) (keyword : String) : List Arm → String
  | [] => ""
  | arm :: rest => renderArm heap keyword arm ++ renderArms heap "ElseIf " rest

def renderArm (heap : Heap) (keyword : String) : Arm → String
  | .mk condition body =>
      keyword ++ condition.render heap ++ " Then\n" ++ renderBlock heap body

def renderBlock (heap : Heap) : List Statement → String
  | [] => ""
  | statement :: rest => indentLines (render heap statement) ++ renderBlock heap rest

end

end Statement

/-! ## Procedures and nodes -/

def ProcedureKind.keyword : ProcedureKind → String
  | .sub => "Sub"
  | .function => "Function"

def Procedure.render (heap : Heap) (procedure : Procedure) : String :=
  let keyword := procedure.kind.keyword
  let parameters := String.intercalate ", " (procedure.parameters.map (·.name))
  let type := match procedure.returnType with
    | some type => " As " ++ type.name
    | none => ""
  keyword ++ " " ++ procedure.name ++ "(" ++ parameters ++ ")" ++ type ++ "\n" ++
    Statement.renderBlock heap procedure.body ++ "End " ++ keyword

def Node.render (heap : Heap) : Node → String
  | .expr part => part.render heap
  | .statement part => part.render heap
  | .procedure part => part.render heap

end MacroSandbox
