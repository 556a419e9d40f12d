import MacroSandbox.Value

/-! Programs of the emulated language, as a parser delivers them. -/

namespace MacroSandbox

/-! ## Operators -/

inductive UnaryOperator
  | negate
  | complement
  deriving Repr, DecidableEq, Inhabited

inductive BinaryOperator
  | add
  | subtract
  | multiply
  | divide
  | integerDivide
  | modulo
  | power
  | concatenate
  | equal
  | notEqual
  | less
  | lessOrEqual
  | greater
  | greaterOrEqual
  | conjunction
  | disjunction
  | exclusiveDisjunction
  deriving Repr, DecidableEq, Inhabited

namespace BinaryOperator

def symbol : BinaryOperator → String
  | .add => "+"
  | .subtract => "-"
  | .multiply => "*"
  | .divide => "/"
  | .integerDivide => "\\"
  | .modulo => "Mod"
  | .power => "^"
  | .concatenate => "&"
  | .equal => "="
  | .notEqual => "<>"
  | .less => "<"
  | .lessOrEqual => "<="
  | .greater => ">"
  | .greaterOrEqual => ">="
  | .conjunction => "And"
  | .disjunction => "Or"
  | .exclusiveDisjunction => "Xor"

def all : List BinaryOperator :=
  [.add, .subtract, .multiply, .divide, .integerDivide, .modulo, .power, .concatenate, .equal,
    .notEqual, .less, .lessOrEqual, .greater, .greaterOrEqual, .conjunction, .disjunction,
    .exclusiveDisjunction]

def ofSymbol? (symbol : String) : Option BinaryOperator :=
  all.find? (·.symbol == symbol)

def precedence : BinaryOperator → Nat
  | .power => 9
  | .multiply | .divide => 8
  | .integerDivide => 7
  | .modulo => 6
  | .add | .subtract => 5
  | .concatenate => 4
  | .equal | .notEqual | .less | .lessOrEqual | .greater | .greaterOrEqual => 3
  | .conjunction => 2
  | .disjunction | .exclusiveDisjunction => 1

def isArithmetic : BinaryOperator → Bool
  | .add | .subtract | .multiply | .divide | .integerDivide | .modulo | .power => true
  | _ => false

end BinaryOperator

/-! ## Expressions -/

inductive Expr
  | literal (value : Value)
  | var (name : String)
  /-- The object of the innermost `With` block, which `.Text` leaves out. -/
  | receiver
  | unary (operator : UnaryOperator) (operand : Expr)
  | binary (operator : BinaryOperator) (left right : Expr)
  | member (object : Expr) (name : String)
  /-- A call of a function or the element of an array; source text does not tell them apart. -/
  | call (callee : Expr) (arguments : List Expr)
  deriving Inhabited

namespace Expr

/-- The path `a.b.c` of a chain of members that starts at a variable or at the receiver. -/
def dottedName? : Expr → Option String
  | .var name => some name
  | .receiver => some ""
  | .member object name => object.dottedName?.map (· ++ "." ++ name)
  | _ => none

def calledName? : Expr → Option String
  | .call (.var name) _ => some name
  | _ => none

def isVar (expression : Expr) (name : String) : Bool :=
  match expression with
  | .var other => Text.sameIgnoringCase other name
  | _ => false

end Expr

/-! ## Statements -/

structure Declaration where
  name : String
  type : Option DeclaredType := none
  bounds : List Expr := []
  deriving Inhabited

inductive LoopTest
  | while
  | until
  deriving Repr, DecidableEq, Inhabited

inductive ErrorTarget
  | resumeNext
  | disable
  | label (name : String)
  deriving Repr, DecidableEq, Inhabited

inductive ExitKind
  | for
  | do
  | sub
  | function
  deriving Repr, DecidableEq, Inhabited

mutual

inductive Statement
  | dim (declarations : List Declaration)
  | assign (target value : Expr)
  | call (expression : Expr)
  | branch (arms : List Arm) (otherwise : List Statement)
  | forRange (index : String) (start finish : Expr) (step : Option Expr) (body : List Statement)
  | forEach (index : String) (items : Expr) (body : List Statement)
  | whileLoop (condition : Expr) (body : List Statement)
  | doLoop (condition : Option (LoopTest × Expr)) (testFirst : Bool) (body : List Statement)
  | withBlock (object : Expr) (body : List Statement)
  | onError (target : ErrorTarget)
  | label (name : String)
  | exit (kind : ExitKind)
  | openFile (path fileNumber : Expr)
  | writeFile (fileNumber value : Expr)
  | closeFiles (fileNumbers : List Expr)

inductive Arm
  | mk (condition : Expr) (body : List Statement)

end

instance : Inhabited Statement := ⟨.dim []⟩

namespace Statement

def isLoop : Statement → Bool
  | .forRange .. | .forEach .. | .whileLoop .. | .doLoop .. => true
  | _ => false

end Statement

/-! ## Procedures and modules -/

inductive ProcedureKind
  | sub
  | function
  deriving Repr, DecidableEq, Inhabited

structure Parameter where
  name : String
  type : Option DeclaredType := none
  deriving Repr, DecidableEq, Inhabited

structure Procedure where
  name : String
  kind : ProcedureKind
  parameters : List Parameter := []
  returnType : Option DeclaredType := none
  body : List Statement
  deriving Inhabited

/-- A declared function of a foreign library, which may have another name there. -/
structure ExternalFunction where
  name : String
  library : String
  foreignName : Option String := none
  deriving Repr, DecidableEq, Inhabited

structure Module where
  name : String := ""
  declarations : List Declaration := []
  constants : List (String × Expr) := []
  externals : List ExternalFunction := []
  procedures : List Procedure := []
  deriving Inhabited

end MacroSandbox
