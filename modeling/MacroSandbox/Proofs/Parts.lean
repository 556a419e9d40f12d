import Mathlib.Logic.Relation
import Mathlib.Tactic.MkIffOfInductiveProp
import Mathlib.Tactic.Simproc.ExistsAndEq
import MacroSandbox.Program.Node

/-! Which parts a part of a program has, position by position, and how far below it they go.

Main statements: `mem_children_iff` and `mem_nodes_iff`, by which the lists of nodes leave no position
out, and `found_iff` for what is gathered from a node and its children: it is found in some part. -/

namespace MacroSandbox

namespace Node

/-! ## Positions -/

/-- The second part stands in a position of the first. -/
@[mk_iff] inductive HasPart : Node → Node → Prop
  | operand {operator : UnaryOperator} {operand : Expr} :
      HasPart (.expr (.unary operator operand)) (.expr operand)
  | left {operator : BinaryOperator} {left right : Expr} :
      HasPart (.expr (.binary operator left right)) (.expr left)
  | right {operator : BinaryOperator} {left right : Expr} :
      HasPart (.expr (.binary operator left right)) (.expr right)
  | object {object : Expr} {property : String} :
      HasPart (.expr (.member object property)) (.expr object)
  | callee {callee : Expr} {arguments : List Expr} :
      HasPart (.expr (.call callee arguments)) (.expr callee)
  | argument {callee argument : Expr} {arguments : List Expr} (member : argument ∈ arguments) :
      HasPart (.expr (.call callee arguments)) (.expr argument)
  | bound {declarations : List Declaration} {declaration : Declaration} {bound : Expr}
      (declared : declaration ∈ declarations) (member : bound ∈ declaration.bounds) :
      HasPart (.statement (.dim declarations)) (.expr bound)
  | target {target value : Expr} : HasPart (.statement (.assign target value)) (.expr target)
  | value {target value : Expr} : HasPart (.statement (.assign target value)) (.expr value)
  | called {expression : Expr} : HasPart (.statement (.call expression)) (.expr expression)
  | condition {condition : Expr} {body otherwise : List Statement} {arms : List Arm}
      (arm : .mk condition body ∈ arms) :
      HasPart (.statement (.branch arms otherwise)) (.expr condition)
  | guarded {condition : Expr} {body otherwise : List Statement} {arms : List Arm}
      {statement : Statement} (arm : .mk condition body ∈ arms) (member : statement ∈ body) :
      HasPart (.statement (.branch arms otherwise)) (.statement statement)
  | otherwise {arms : List Arm} {otherwise : List Statement} {statement : Statement}
      (member : statement ∈ otherwise) :
      HasPart (.statement (.branch arms otherwise)) (.statement statement)
  | start {index : String} {start finish : Expr} {step : Option Expr} {body : List Statement} :
      HasPart (.statement (.forRange index start finish step body)) (.expr start)
  | finish {index : String} {start finish : Expr} {step : Option Expr} {body : List Statement} :
      HasPart (.statement (.forRange index start finish step body)) (.expr finish)
  | step {index : String} {start finish step : Expr} {body : List Statement} :
      HasPart (.statement (.forRange index start finish (some step) body)) (.expr step)
  | inRange {index : String} {start finish : Expr} {step : Option Expr} {body : List Statement}
      {statement : Statement} (member : statement ∈ body) :
      HasPart (.statement (.forRange index start finish step body)) (.statement statement)
  | items {index : String} {items : Expr} {body : List Statement} :
      HasPart (.statement (.forEach index items body)) (.expr items)
  | inEach {index : String} {items : Expr} {body : List Statement} {statement : Statement}
      (member : statement ∈ body) :
      HasPart (.statement (.forEach index items body)) (.statement statement)
  | whileTest {condition : Expr} {body : List Statement} :
      HasPart (.statement (.whileLoop condition body)) (.expr condition)
  | inWhile {condition : Expr} {body : List Statement} {statement : Statement}
      (member : statement ∈ body) :
      HasPart (.statement (.whileLoop condition body)) (.statement statement)
  | doTest {test : LoopTest} {condition : Expr} {testFirst : Bool} {body : List Statement} :
      HasPart (.statement (.doLoop (some (test, condition)) testFirst body)) (.expr condition)
  | inDo {condition : Option (LoopTest × Expr)} {testFirst : Bool} {body : List Statement}
      {statement : Statement} (member : statement ∈ body) :
      HasPart (.statement (.doLoop condition testFirst body)) (.statement statement)
  | receiver {object : Expr} {body : List Statement} :
      HasPart (.statement (.withBlock object body)) (.expr object)
  | inWith {object : Expr} {body : List Statement} {statement : Statement}
      (member : statement ∈ body) :
      HasPart (.statement (.withBlock object body)) (.statement statement)
  | path {path fileNumber : Expr} :
      HasPart (.statement (.openFile path fileNumber)) (.expr path)
  | opened {path fileNumber : Expr} :
      HasPart (.statement (.openFile path fileNumber)) (.expr fileNumber)
  | extended {fileNumber value : Expr} :
      HasPart (.statement (.writeFile fileNumber value)) (.expr fileNumber)
  | written {fileNumber value : Expr} :
      HasPart (.statement (.writeFile fileNumber value)) (.expr value)
  | closed {fileNumbers : List Expr} {fileNumber : Expr} (member : fileNumber ∈ fileNumbers) :
      HasPart (.statement (.closeFiles fileNumbers)) (.expr fileNumber)
  | ofBody {procedure : Procedure} {statement : Statement} (member : statement ∈ procedure.body) :
      HasPart (.procedure procedure) (.statement statement)

/-- The second part stands in the first, however deep, or is the first. -/
def Contains : Node → Node → Prop :=
  Relation.ReflTransGen HasPart

theorem Contains.refl (node : Node) : node.Contains node :=
  Relation.ReflTransGen.refl

theorem Contains.part {outer node inner : Node} (contains : outer.Contains node)
    (part : node.HasPart inner) : outer.Contains inner :=
  Relation.ReflTransGen.tail contains part

/-! ## Children -/

theorem mem_arm_nodes {arm : Arm} {inner : Node} :
    inner ∈ arm.nodes ↔ ∃ condition body, arm = .mk condition body ∧
      (inner = .expr condition ∨ ∃ statement ∈ body, inner = .statement statement) := by
  cases arm
  simp [Arm.nodes, eq_comm]

theorem exists_mem_arms_nodes {arms : List Arm} {holds : Node → Prop} :
    (∃ child ∈ arms.flatMap Arm.nodes, holds child) ↔
      ∃ condition body, .mk condition body ∈ arms ∧
        (holds (.expr condition) ∨ ∃ statement ∈ body, holds (.statement statement)) := by
  constructor
  · rintro ⟨child, member, has⟩
    obtain ⟨arm, inArms, inArm⟩ := List.mem_flatMap.1 member
    obtain ⟨condition, body, rfl, rfl | ⟨statement, inBody, rfl⟩⟩ := mem_arm_nodes.1 inArm
    · exact ⟨condition, body, inArms, .inl has⟩
    · exact ⟨condition, body, inArms, .inr ⟨statement, inBody, has⟩⟩
  · rintro ⟨condition, body, inArms, has | ⟨statement, inBody, has⟩⟩
    · exact ⟨_, List.mem_flatMap.2 ⟨_, inArms, by simp [Arm.nodes]⟩, has⟩
    · exact ⟨_, List.mem_flatMap.2 ⟨_, inArms, by simp [Arm.nodes, inBody]⟩, has⟩

theorem mem_children_iff {outer inner : Node} :
    inner ∈ outer.children ↔ outer.HasPart inner := by
  rw [hasPart_iff]
  cases outer with
  | expr part => cases part <;> simp [children, ofExpr, eq_comm]
  | statement part =>
      cases part with
      | branch arms otherwise =>
          simp [children, ofStatement, mem_arm_nodes, and_or_left, exists_or, or_assoc, eq_comm]
      | doLoop condition testFirst body =>
          cases testFirst <;> simp [children, ofStatement, eq_comm]
      | _ => simp [children, ofStatement, eq_comm]
  | procedure part => simp [children, eq_comm]

/-! ## All nodes -/

theorem nodes_eq (node : Node) : node.nodes = node :: node.children.flatMap nodes := by
  rw [nodes, List.flatMap_subtype fun _ _ => rfl, List.unattach_attach]

@[elab_as_elim] theorem inductionOnChildren {motive : Node → Prop}
    (step : ∀ node, (∀ child ∈ node.children, motive child) → motive node) (node : Node) :
    motive node :=
  step node fun child _ => inductionOnChildren step child
termination_by sizeOf node
decreasing_by exact sizeOf_lt_of_mem_children ‹_›

theorem found_iff {gathers own : Node → Prop}
    (step : ∀ node, gathers node ↔ own node ∨ ∃ child ∈ node.children, gathers child)
    (node : Node) : gathers node ↔ ∃ inner, node.Contains inner ∧ own inner := by
  induction node using inductionOnChildren with
  | step node induction =>
      have below : (∃ child ∈ node.children, gathers child) ↔
          ∃ child, node.HasPart child ∧ ∃ inner, child.Contains inner ∧ own inner := by
        apply exists_congr
        intro child
        rw [mem_children_iff]
        exact and_congr_right fun part => induction child (mem_children_iff.2 part)
      rw [step, below]
      constructor
      · rintro (here | ⟨child, part, inner, contains, holds⟩)
        · exact ⟨node, .refl node, here⟩
        · exact ⟨inner, .head part contains, holds⟩
      · rintro ⟨inner, contains, holds⟩
        obtain rfl | ⟨child, part, contains⟩ := Relation.ReflTransGen.cases_head_iff.1 contains
        · exact .inl holds
        · exact .inr ⟨child, part, inner, contains, holds⟩

theorem mem_nodes_iff {node inner : Node} : inner ∈ node.nodes ↔ node.Contains inner := by
  have step (node : Node) : inner ∈ node.nodes ↔
      inner = node ∨ ∃ child ∈ node.children, inner ∈ child.nodes := by
    rw [node.nodes_eq, List.mem_cons, List.mem_flatMap]
  rw [found_iff step]
  exact exists_eq_right'

theorem self_mem_nodes (node : Node) : node ∈ node.nodes :=
  mem_nodes_iff.2 (.refl node)

theorem mem_nodes_of_child {outer child inner : Node} (isChild : child ∈ outer.children)
    (member : inner ∈ child.nodes) : inner ∈ outer.nodes :=
  mem_nodes_iff.2 (.head (mem_children_iff.1 isChild) (mem_nodes_iff.1 member))

end Node

theorem Statement.mem_nodesOfList_iff {statements : List Statement} {inner : Node} :
    inner ∈ nodesOfList statements ↔
      ∃ statement ∈ statements, inner ∈ (Node.statement statement).nodes := by
  simp [nodesOfList]

theorem Node.mem_nodes_of_body {outer inner : Node} {body : List Statement}
    (parts : ∀ statement ∈ body, outer.HasPart (.statement statement))
    (member : inner ∈ Statement.nodesOfList body) : inner ∈ outer.nodes := by
  obtain ⟨statement, inBody, member⟩ := Statement.mem_nodesOfList_iff.1 member
  exact mem_nodes_of_child (mem_children_iff.2 (parts statement inBody)) member

end MacroSandbox
