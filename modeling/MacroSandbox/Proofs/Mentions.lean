import Mathlib.Tactic.MkIffOfInductiveProp
import Mathlib.Tactic.Simproc.ExistsAndEq
import MacroSandbox.Analysis
import MacroSandbox.Proofs.Parts

/-! Where the names of variables stand in a part of a program, position by position.

Main statement: `Node.mem_mentions_iff`, by which the names that a part mentions are those that stand
in one of its positions, however deep. The index of a loop and the name of a declaration are no such
positions: they are written, and nothing is called by them. -/

namespace MacroSandbox

variable {name : String}

/-! ## Positions -/

@[mk_iff] inductive Expr.Mentions (name : String) : Expr → Prop
  | var {spelling : String} (same : Text.asciiLower spelling = Text.asciiLower name) :
      Mentions name (.var spelling)
  | operand {operator : UnaryOperator} {operand : Expr} (inside : Mentions name operand) :
      Mentions name (.unary operator operand)
  | left {operator : BinaryOperator} {left right : Expr} (inside : Mentions name left) :
      Mentions name (.binary operator left right)
  | right {operator : BinaryOperator} {left right : Expr} (inside : Mentions name right) :
      Mentions name (.binary operator left right)
  | object {object : Expr} {property : String} (inside : Mentions name object) :
      Mentions name (.member object property)
  | callee {callee : Expr} {arguments : List Expr} (inside : Mentions name callee) :
      Mentions name (.call callee arguments)
  | argument {callee argument : Expr} {arguments : List Expr} (member : argument ∈ arguments)
      (inside : Mentions name argument) : Mentions name (.call callee arguments)

/-- A name stands in a statement: in one of its expressions, or in a statement of one of its
bodies. -/
@[mk_iff] inductive Statement.Mentions (name : String) : Statement → Prop
  | bound {declarations : List Declaration} {declaration : Declaration} {bound : Expr}
      (declared : declaration ∈ declarations) (member : bound ∈ declaration.bounds)
      (inside : bound.Mentions name) : Mentions name (.dim declarations)
  | target {target value : Expr} (inside : target.Mentions name) :
      Mentions name (.assign target value)
  | value {target value : Expr} (inside : value.Mentions name) :
      Mentions name (.assign target value)
  | called {expression : Expr} (inside : expression.Mentions name) :
      Mentions name (.call expression)
  | condition {condition : Expr} {body otherwise : List Statement} {arms : List Arm}
      (arm : .mk condition body ∈ arms) (inside : condition.Mentions name) :
      Mentions name (.branch arms otherwise)
  | guarded {condition : Expr} {body otherwise : List Statement} {arms : List Arm}
      {statement : Statement} (arm : .mk condition body ∈ arms) (member : statement ∈ body)
      (inside : Mentions name statement) : Mentions name (.branch arms otherwise)
  | otherwise {arms : List Arm} {otherwise : List Statement} {statement : Statement}
      (member : statement ∈ otherwise) (inside : Mentions name statement) :
      Mentions name (.branch arms otherwise)
  | start {index : String} {start finish : Expr} {step : Option Expr} {body : List Statement}
      (inside : start.Mentions name) : Mentions name (.forRange index start finish step body)
  | finish {index : String} {start finish : Expr} {step : Option Expr} {body : List Statement}
      (inside : finish.Mentions name) : Mentions name (.forRange index start finish step body)
  | step {index : String} {start finish step : Expr} {body : List Statement}
      (inside : step.Mentions name) : Mentions name (.forRange index start finish (some step) body)
  | inRange {index : String} {start finish : Expr} {step : Option Expr} {body : List Statement}
      {statement : Statement} (member : statement ∈ body) (inside : Mentions name statement) :
      Mentions name (.forRange index start finish step body)
  | items {index : String} {items : Expr} {body : List Statement} (inside : items.Mentions name) :
      Mentions name (.forEach index items body)
  | inEach {index : String} {items : Expr} {body : List Statement} {statement : Statement}
      (member : statement ∈ body) (inside : Mentions name statement) :
      Mentions name (.forEach index items body)
  | whileTest {condition : Expr} {body : List Statement} (inside : condition.Mentions name) :
      Mentions name (.whileLoop condition body)
  | inWhile {condition : Expr} {body : List Statement} {statement : Statement}
      (member : statement ∈ body) (inside : Mentions name statement) :
      Mentions name (.whileLoop condition body)
  | doTest {test : LoopTest} {condition : Expr} {testFirst : Bool} {body : List Statement}
      (inside : condition.Mentions name) :
      Mentions name (.doLoop (some (test, condition)) testFirst body)
  | inDo {condition : Option (LoopTest × Expr)} {testFirst : Bool} {body : List Statement}
      {statement : Statement} (member : statement ∈ body) (inside : Mentions name statement) :
      Mentions name (.doLoop condition testFirst body)
  | receiver {object : Expr} {body : List Statement} (inside : object.Mentions name) :
      Mentions name (.withBlock object body)
  | inWith {object : Expr} {body : List Statement} {statement : Statement}
      (member : statement ∈ body) (inside : Mentions name statement) :
      Mentions name (.withBlock object body)
  | path {path fileNumber : Expr} (inside : path.Mentions name) :
      Mentions name (.openFile path fileNumber)
  | opened {path fileNumber : Expr} (inside : fileNumber.Mentions name) :
      Mentions name (.openFile path fileNumber)
  | extended {fileNumber value : Expr} (inside : fileNumber.Mentions name) :
      Mentions name (.writeFile fileNumber value)
  | written {fileNumber value : Expr} (inside : value.Mentions name) :
      Mentions name (.writeFile fileNumber value)
  | closed {fileNumbers : List Expr} {fileNumber : Expr} (member : fileNumber ∈ fileNumbers)
      (inside : fileNumber.Mentions name) : Mentions name (.closeFiles fileNumbers)

def Node.Mentions (name : String) : Node → Prop
  | .expr part => part.Mentions name
  | .statement part => part.Mentions name
  | .procedure part => ∃ statement ∈ part.body, statement.Mentions name

/-! ## Names that are gathered -/

namespace Node

theorem mem_mentions_iff_contains {node : Node} {key : String} :
    key ∈ node.mentions ↔
      ∃ spelling, node.Contains (.expr (.var spelling)) ∧ Text.asciiLower spelling = key := by
  simp only [mentions, List.mem_filterMap, mem_nodes_iff]
  constructor
  · rintro ⟨inner, contains, named⟩
    unfold variableName? at named
    split at named
    · exact ⟨_, contains, Option.some.inj named⟩
    · cases named
  · rintro ⟨spelling, contains, same⟩
    exact ⟨_, contains, congrArg some same⟩

/-- A name stands in a part if the part is a variable of that name or has a child in which the name
stands. -/
theorem mentions_iff_children (node : Node) :
    node.Mentions name ↔
      (∃ spelling, node = .expr (.var spelling) ∧
          Text.asciiLower spelling = Text.asciiLower name) ∨
        ∃ child ∈ node.children, child.Mentions name := by
  cases node with
  | expr part =>
      rw [Mentions, Expr.mentions_iff]
      cases part <;> simp [children, ofExpr, Mentions]
  | statement part =>
      rw [Mentions, Statement.mentions_iff]
      cases part with
      | branch arms otherwise =>
          simp only [children, ofStatement, List.mem_append, or_and_right, exists_or,
            exists_mem_arms_nodes]
          simp [Mentions, and_or_left, exists_or, or_assoc]
      | doLoop condition testFirst body =>
          rcases condition with _ | ⟨_, _⟩ <;> cases testFirst <;>
            simp [children, ofStatement, Mentions]
      | forRange index start finish step body =>
          cases step <;> simp [children, ofStatement, Mentions]
      | _ => simp [children, ofStatement, Mentions, and_assoc]
  | procedure part => simp [children, Mentions]

theorem mem_mentions_iff {node : Node} :
    Text.asciiLower name ∈ node.mentions ↔ node.Mentions name := by
  rw [mem_mentions_iff_contains, found_iff mentions_iff_children]
  constructor
  · rintro ⟨spelling, contains, same⟩
    exact ⟨_, contains, spelling, rfl, same⟩
  · rintro ⟨_, contains, spelling, rfl, same⟩
    exact ⟨spelling, contains, same⟩

end Node

end MacroSandbox
