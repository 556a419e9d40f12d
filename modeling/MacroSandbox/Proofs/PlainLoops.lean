import MacroSandbox.Evaluation.Interpreter
import MacroSandbox.Loop.Lowering
import MacroSandbox.Proofs.Variables

/-! Plain loops: loops that compute with variables only, and how many bodies they run. -/

namespace MacroSandbox

/-! ## The fragment -/

namespace Expr

def mentionsVariable : Expr → Bool
  | .var _ => true
  | .unary _ operand => operand.mentionsVariable
  | .binary _ left right => left.mentionsVariable || right.mentionsVariable
  | _ => false

/-- Whether the expression is made of integers, truth values, texts, variables and operators. Every
operator has a variable among its operands. -/
def isPlain : Expr → Bool
  | .literal (.integer _) | .literal (.boolean _) | .literal (.text _) | .var _ => true
  | .unary _ operand => operand.mentionsVariable && operand.isPlain
  | .binary _ left right =>
      (left.mentionsVariable || right.mentionsVariable) && left.isPlain && right.isPlain
  | _ => false

end Expr

namespace Statement

mutual

/-- Whether the statement assigns to a variable, branches, loops over a range or on a condition, or
leaves a loop, and so do the statements in it. -/
def isPlain : Statement → Bool
  | .assign (.var _) value => value.isPlain
  | .branch arms otherwise => arePlainArms arms && arePlain otherwise
  | .forRange _ start finish step body =>
      start.isPlain && finish.isPlain && step.all Expr.isPlain && arePlain body
  | .whileLoop condition body => condition.isPlain && arePlain body
  | .doLoop condition _ body => condition.all (fun test => test.2.isPlain) && arePlain body
  | .exit .for | .exit .do => true
  | _ => false

def arePlainArms : List Arm → Bool
  | [] => true
  | arm :: rest => isPlainArm arm && arePlainArms rest

def isPlainArm : Arm → Bool
  | .mk condition body => condition.isPlain && arePlain body

def arePlain : List Statement → Bool
  | [] => true
  | statement :: rest => statement.isPlain && arePlain rest

end

/-- The variables of a plain statement, in lower case: those in its expressions, and those that it
assigns to. -/
def variableNames (statement : Statement) : List String :=
  (Node.statement statement).reads.vars ++ (Node.statement statement).writes

end Statement

/-! ## Counting bodies

A count follows the interpreter from state to state. It ends without a number where a statement ends
in a fault and where a loop is abandoned because it ran for too many rounds. -/

namespace Engine

/-- How many bodies the rounds of a loop over a range run. `inBody` counts those inside of one
body. -/
def rangeBodies? (engine : Engine) (environment : Environment) (index : String)
    (finish step : Value) (descending : Bool) (body : List Statement)
    (inBody : State → Option Nat) : (rounds : Nat) → State → Option Nat
  | rounds, state =>
      let current := ((state.scope environment).get? index).getD .null
      if isPast state.heap descending current finish then some 0
      else
        match rounds with
        | 0 => none
        | rounds + 1 =>
            let others :=
              match engine.runBody body .exitFor environment state with
              | .ok .repeat after =>
                  match advance index step environment after with
                  | .ok _ next =>
                      engine.rangeBodies? environment index finish step descending body inBody
                        rounds next
                  | .error .. => none
              | .ok _ _ => some 0
              | .error .. => none
            return (← inBody state) + 1 + (← others)

def conditionalBodies? (engine : Engine) (environment : Environment)
    (condition : Option (LoopTest × Expr)) (testFirst : Bool) (body : List Statement)
    (inBody : State → Option Nat) : (rounds : Nat) → State → Option Nat
  | rounds, state =>
      match engine.testWhen testFirst condition environment state with
      | .ok false _ => some 0
      | .ok true tested =>
          match rounds with
          | 0 => none
          | rounds + 1 =>
              let others :=
                match engine.runBody body .exitDo environment tested with
                | .ok .repeat after =>
                    match engine.testWhen (!testFirst) condition environment after with
                    | .ok false _ => some 0
                    | .ok true next =>
                        engine.conditionalBodies? environment condition testFirst body inBody
                          rounds next
                    | .error .. => none
                | .ok _ _ => some 0
                | .error .. => none
              return (← inBody tested) + 1 + (← others)
      | .error .. => none

end Engine

namespace Statement

mutual

/-- How many loop bodies a plain statement runs, interpreted at most `levels` deep from a state. -/
def bodies? (environment : Environment) (levels : Nat) : Statement → State → Option Nat
  | .branch arms otherwise, state =>
      bodiesOfArms? environment levels (bodiesOfBlock? environment levels otherwise) arms state
  | .forRange index start finish step body, state =>
      match (Engine.within levels).startRange index start finish step environment state with
      | .ok (finish, step) started =>
          (Engine.within levels).rangeBodies? environment index finish step (step.toFloat < 0.0) body
            (bodiesOfBlock? environment levels body) environment.policy.maxLoopIterations started
      | .error .. => none
  | .whileLoop condition body, state =>
      (Engine.within levels).conditionalBodies? environment (some (.while, condition)) true body
        (bodiesOfBlock? environment levels body) environment.policy.maxLoopIterations state
  | .doLoop condition testFirst body, state =>
      (Engine.within levels).conditionalBodies? environment condition testFirst body
        (bodiesOfBlock? environment levels body) environment.policy.maxLoopIterations state
  | statement, state =>
      match (Engine.within levels).runStatement statement environment state with
      | .ok .. => some 0
      | .error .. => none

def bodiesOfArms? (environment : Environment) (levels : Nat) (otherwise : State → Option Nat) :
    List Arm → State → Option Nat
  | [], state => otherwise state
  | arm :: rest, state =>
      bodiesOfArm? environment levels (bodiesOfArms? environment levels otherwise rest) arm state

def bodiesOfArm? (environment : Environment) (levels : Nat) (otherwise : State → Option Nat) :
    Arm → State → Option Nat
  | .mk condition body, state =>
      match (Engine.within levels).operand condition environment state with
      | .ok value after =>
          if after.heap.isTruthy value then bodiesOfBlock? environment levels body after
          else otherwise after
      | .error .. => none

def bodiesOfBlock? (environment : Environment) : (levels : Nat) → List Statement → State →
    Option Nat
  | 0, _, _ => none
  | _ + 1, [], _ => some 0
  | levels + 1, statement :: rest, state =>
      match Eval.tick environment state with
      | .ok _ ticked =>
          let others :=
            match (Engine.within levels).runStatement statement environment ticked with
            | .ok .continue after =>
                if after.frame.errorState == .pending then some 0
                else bodiesOfBlock? environment (levels + 1) rest after
            | .ok _ _ => some 0
            | .error .. => none
          return (← statement.bodies? environment levels ticked) + (← others)
      | .error .. => none

end

end Statement

end MacroSandbox
