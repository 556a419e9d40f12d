import MacroSandbox.Library.Catalog
import MacroSandbox.Program
import MacroSandbox.Program.Render
import Std.Data.TreeSet

/-! Loop programs: a loop with everything that it needs, so that it can run on its own.

The initial value of every variable is part of the program, and so the text of a program stands for
one loop in one state of the caller. -/

namespace MacroSandbox

/-! ## Programs -/

inductive LoopKind
  | for
  | do
  deriving Repr, DecidableEq, Inhabited

inductive LoopExpr
  | constant (value : Value)
  | var (name : String)
  | unary (operator : UnaryOperator) (operand : LoopExpr)
  | binary (operator : BinaryOperator) (left right : LoopExpr)
  | index (name : String) (indices : List LoopExpr)
  | builtin (name : String) (routine : PureRoutine) (arguments : List LoopExpr)
  | call (name : String) (arguments : List LoopExpr)
  | writeMemory (arguments : List LoopExpr)
  deriving Inhabited

structure LoopDeclaration where
  name : String
  type : Option DeclaredType
  bounds : List LoopExpr
  deriving Inhabited

mutual

inductive LoopStatement
  | dim (declarations : List LoopDeclaration)
  | assign (name : String) (value : LoopExpr)
  | assignElement (name : String) (indices : List LoopExpr) (value : LoopExpr)
  | overwrite (name : String) (start : LoopExpr) (length : Option LoopExpr) (value : LoopExpr)
  | evaluate (expression : LoopExpr)
  | branch (arms : List LoopArm) (otherwise : List LoopStatement)
  | forRange (index : String) (start finish : LoopExpr) (step : Option LoopExpr)
      (body : List LoopStatement)
  | forEach (index : String) (items : LoopExpr) (body : List LoopStatement)
  | conditional (condition : Option (LoopTest × LoopExpr)) (testFirst : Bool)
      (body : List LoopStatement)
  | break (kind : LoopKind)
  | return

inductive LoopArm
  | mk (condition : LoopExpr) (body : List LoopStatement)

end

instance : Inhabited LoopStatement := ⟨.return⟩

structure LoopFunction where
  name : String
  parameters : List (String × Option DeclaredType)
  returnsValue : Bool
  returnType : Option DeclaredType
  body : List LoopStatement
  deriving Inhabited

structure LoopProgram where
  prologue : Std.TreeMap String Value
  /-- Declared types of variables, to which assignments coerce. -/
  types : Std.TreeMap String DeclaredType
  shared : Std.TreeSet String
  functions : Std.TreeMap String LoopFunction
  body : LoopStatement
  captures : Std.TreeSet String
  deriving Inhabited

/-! ## The text of a program -/

/-- A constant, nested at most `depth` levels deep. Integers and other numbers are told apart. -/
def Heap.constantWithin (heap : Heap) : (depth : Nat) → Value → String
  | _, .integer value => toString value.toInt
  | _, .float value => markedFloatText value
  | _, .text value => Text.quoted value
  | _, .boolean value => toString value
  | 0, .list _ => "[]"
  | depth + 1, .list place =>
      let items := (heap.list place).toList.map (heap.constantWithin depth)
      "[" ++ String.intercalate ", " items ++ "]"
  | 0, .map _ => "\x7b\x7d"
  | depth + 1, .map place =>
      let entries := (heap.map place).toList.map fun (key, value) =>
        Text.quoted key ++ ": " ++ heap.constantWithin depth value
      "\x7b" ++ String.intercalate ", " entries ++ "\x7d"
  | _, .null | _, .unresolved => "null"
  | _, .object _ className => "object " ++ className

def Heap.constant (heap : Heap) (value : Value) : String :=
  heap.constantWithin heap.depthBound value

def DeclaredType.renderOption : Option DeclaredType → String
  | some type => "Some(" ++ type.name ++ ")"
  | none => "None"

namespace LoopExpr

mutual

def render (heap : Heap) : LoopExpr → String
  | .constant value => heap.constant value
  | .var name => name
  | .unary .negate operand => "(-" ++ render heap operand ++ ")"
  | .unary .complement operand => "(not " ++ render heap operand ++ ")"
  | .binary operator left right =>
      "(" ++ render heap left ++ " " ++ operator.symbol ++ " " ++ render heap right ++ ")"
  | .index name indices => name ++ "[" ++ String.intercalate ", " (renderList heap indices) ++ "]"
  | .builtin name _ arguments =>
      "builtin " ++ name ++ "(" ++ String.intercalate ", " (renderList heap arguments) ++ ")"
  | .call name arguments =>
      "call " ++ name ++ "(" ++ String.intercalate ", " (renderList heap arguments) ++ ")"
  | .writeMemory arguments =>
      "write_memory(" ++ String.intercalate ", " (renderList heap arguments) ++ ")"

def renderList (heap : Heap) : List LoopExpr → List String
  | [] => []
  | expression :: rest => render heap expression :: renderList heap rest

end

end LoopExpr

namespace LoopStatement

def line (level : Nat) (text : String) : String :=
  String.join (List.replicate level "  ") ++ text ++ "\n"

def renderDeclaration (heap : Heap) (level : Nat) (declaration : LoopDeclaration) : String :=
  line level ("dim " ++ declaration.name ++ "[" ++
    String.intercalate ", " (LoopExpr.renderList heap declaration.bounds) ++ "]: " ++
    DeclaredType.renderOption declaration.type)

def renderTest (heap : Heap) : Option (LoopTest × LoopExpr) → String
  | some (.while, condition) => "while " ++ condition.render heap
  | some (.until, condition) => "until " ++ condition.render heap
  | none => "forever"

mutual

def render (heap : Heap) (level : Nat) : LoopStatement → String
  | .dim declarations => String.join (declarations.map (renderDeclaration heap level))
  | .assign name value => line level (name ++ " = " ++ value.render heap)
  | .assignElement name indices value =>
      line level (name ++ "[" ++ String.intercalate ", " (LoopExpr.renderList heap indices) ++
        "] = " ++ value.render heap)
  | .overwrite name start length value =>
      let lengthText := match length with
        | some length => "; " ++ length.render heap
        | none => ""
      line level ("mid " ++ name ++ "[" ++ start.render heap ++ lengthText ++ "] = " ++
        value.render heap)
  | .evaluate expression => line level (expression.render heap)
  | .branch arms otherwise =>
      renderArms heap level "if " arms ++
        (match otherwise with
         | [] => ""
         | statement :: rest =>
             line level "else:" ++ renderBlock heap (level + 1) (statement :: rest))
  | .forRange index start finish step body =>
      let stepText := match step with
        | some step => " step " ++ step.render heap
        | none => ""
      line level ("for " ++ index ++ " = " ++ start.render heap ++ " to " ++ finish.render heap ++
        stepText ++ ":") ++ renderBlock heap (level + 1) body
  | .forEach index items body =>
      line level ("for each " ++ index ++ " in " ++ items.render heap ++ ":") ++
        renderBlock heap (level + 1) body
  | .conditional condition testFirst body =>
      line level ("loop " ++ renderTest heap condition ++ " tested " ++
        (if testFirst then "before" else "after") ++ ":") ++ renderBlock heap (level + 1) body
  | .break .for => line level "break for"
  | .break .do => line level "break do"
  | .return => line level "return"

def renderArms (heap : Heap) (level : Nat) (keyword : String) : List LoopArm → String
  | [] => ""
  | arm :: rest => renderArm heap level keyword arm ++ renderArms heap level "elif " rest

def renderArm (heap : Heap) (level : Nat) (keyword : String) : LoopArm → String
  | .mk condition body =>
      line level (keyword ++ condition.render heap ++ ":") ++ renderBlock heap (level + 1) body

def renderBlock (heap : Heap) (level : Nat) : List LoopStatement → String
  | [] => ""
  | statement :: rest => render heap level statement ++ renderBlock heap level rest

end

end LoopStatement

def LoopFunction.render (heap : Heap) (function : LoopFunction) : String :=
  let parameters := function.parameters.map fun (name, type) =>
    name ++ ": " ++ DeclaredType.renderOption type
  let returns :=
    if function.returnsValue then " -> " ++ DeclaredType.renderOption function.returnType else ""
  "fn " ++ function.name ++ "(" ++ String.intercalate ", " parameters ++ ")" ++ returns ++ ":\n" ++
    LoopStatement.renderBlock heap 1 function.body

def LoopProgram.render (heap : Heap) (program : LoopProgram) : String :=
  let values := program.prologue.toList.map fun (name, value) =>
    "  " ++ name ++ " = " ++ heap.constant value ++ "\n"
  let types := program.types.toList.map fun (name, type) =>
    "  " ++ name ++ ": " ++ type.name ++ "\n"
  let functions := program.functions.toList.map fun (_, function) => function.render heap
  "prologue:\n" ++ String.join values ++ String.join types ++
    "shared: " ++ String.intercalate ", " program.shared.toList ++ "\n" ++
    String.join functions ++
    "main:\n" ++ program.body.render heap 1 ++
    "capture: " ++ String.intercalate ", " program.captures.toList

end MacroSandbox
