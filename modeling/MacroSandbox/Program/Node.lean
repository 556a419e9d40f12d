import MacroSandbox.Program

/-! Any part of a program as a node, its children, and all nodes below it. -/

namespace MacroSandbox

inductive Node
  | expr (part : Expr)
  | statement (part : Statement)
  | procedure (part : Procedure)

def Arm.nodes : Arm → List Node
  | .mk condition body => .expr condition :: body.map .statement

namespace Node

def isLoop : Node → Bool
  | .statement part => part.isLoop
  | _ => false

def ofExpr : Expr → List Node
  | .literal _ | .var _ | .receiver => []
  | .unary _ operand => [.expr operand]
  | .binary _ left right => [.expr left, .expr right]
  | .member object _ => [.expr object]
  | .call callee arguments => .expr callee :: arguments.map .expr

def ofStatement : Statement → List Node
  | .dim declarations => declarations.flatMap fun declaration => declaration.bounds.map .expr
  | .assign target value => [.expr target, .expr value]
  | .call expression => [.expr expression]
  | .branch arms otherwise => arms.flatMap Arm.nodes ++ otherwise.map .statement
  | .forRange _ start finish step body =>
      .expr start :: .expr finish :: step.toList.map .expr ++ body.map .statement
  | .forEach _ items body => .expr items :: body.map .statement
  | .whileLoop condition body => .expr condition :: body.map .statement
  | .doLoop condition _ body =>
      condition.toList.map (fun test => .expr test.2) ++ body.map .statement
  | .withBlock object body => .expr object :: body.map .statement
  | .onError _ | .label _ | .exit _ => []
  | .openFile path fileNumber => [.expr path, .expr fileNumber]
  | .writeFile fileNumber value => [.expr fileNumber, .expr value]
  | .closeFiles fileNumbers => fileNumbers.map .expr

def children : Node → List Node
  | .expr part => ofExpr part
  | .statement part => ofStatement part
  | .procedure part => part.body.map .statement

/-! ## Children are smaller than their nodes -/

theorem sizeOf_lt_of_mem_exprs {parts : List Expr} {child : Node} (member : child ∈ parts.map expr) :
    sizeOf child < 1 + sizeOf parts := by
  obtain ⟨part, inside, rfl⟩ := List.mem_map.1 member
  have := List.sizeOf_lt_of_mem inside
  simp only [expr.sizeOf_spec]
  omega

theorem sizeOf_lt_of_mem_body {body : List Statement} {child : Node}
    (member : child ∈ body.map statement) : sizeOf child < 1 + sizeOf body := by
  obtain ⟨part, inside, rfl⟩ := List.mem_map.1 member
  have := List.sizeOf_lt_of_mem inside
  simp only [statement.sizeOf_spec]
  omega

theorem sizeOf_lt_of_mem_arms {arms : List Arm} {child : Node}
    (member : child ∈ arms.flatMap Arm.nodes) : sizeOf child < 1 + sizeOf arms := by
  obtain ⟨⟨condition, body⟩, inside, member⟩ := List.mem_flatMap.1 member
  have := List.sizeOf_lt_of_mem inside
  simp only [Arm.mk.sizeOf_spec] at this
  obtain rfl | inBody := List.mem_cons.1 member
  · simp only [expr.sizeOf_spec]
    omega
  · have := sizeOf_lt_of_mem_body inBody
    omega

theorem sizeOf_lt_of_mem_bounds {declarations : List Declaration} {child : Node}
    (member : child ∈ declarations.flatMap fun declaration => declaration.bounds.map expr) :
    sizeOf child < 1 + sizeOf declarations := by
  obtain ⟨⟨name, type, bounds⟩, inside, member⟩ := List.mem_flatMap.1 member
  have := List.sizeOf_lt_of_mem inside
  simp only [Declaration.mk.sizeOf_spec] at this
  have := sizeOf_lt_of_mem_exprs member
  dsimp only at this
  omega

theorem sizeOf_lt_of_mem_optional {part : Option Expr} {child : Node}
    (member : child ∈ part.toList.map expr) : sizeOf child < 1 + sizeOf part := by
  cases part with
  | none => cases member
  | some part =>
      obtain rfl := List.mem_singleton.1 member
      simp only [expr.sizeOf_spec, Option.some.sizeOf_spec]
      omega

theorem sizeOf_lt_of_mem_ofExpr {part : Expr} {child : Node} (member : child ∈ ofExpr part) :
    sizeOf child < 1 + sizeOf part := by
  cases part <;> simp only [ofExpr, List.not_mem_nil, List.mem_cons, or_false] at member
  case call callee arguments =>
    rw [Expr.call.sizeOf_spec]
    obtain rfl | member := member
    · rw [expr.sizeOf_spec]
      omega
    · have := sizeOf_lt_of_mem_exprs member
      omega
  case binary =>
    obtain rfl | rfl := member <;> simp only [expr.sizeOf_spec, Expr.binary.sizeOf_spec] <;> omega
  all_goals
    subst member
    simp only [expr.sizeOf_spec, Expr.unary.sizeOf_spec, Expr.member.sizeOf_spec]
    omega

theorem sizeOf_lt_of_mem_ofStatement {part : Statement} {child : Node}
    (member : child ∈ ofStatement part) : sizeOf child < 1 + sizeOf part := by
  cases part <;> simp only [ofStatement, List.not_mem_nil, List.mem_cons, List.mem_append, or_false,
    List.cons_append] at member
  case dim =>
    rw [Statement.dim.sizeOf_spec]
    have := sizeOf_lt_of_mem_bounds member
    omega
  case closeFiles =>
    rw [Statement.closeFiles.sizeOf_spec]
    have := sizeOf_lt_of_mem_exprs member
    omega
  case call =>
    subst member
    rw [expr.sizeOf_spec, Statement.call.sizeOf_spec]
    omega
  case assign | openFile | writeFile =>
    obtain rfl | rfl := member <;>
      simp only [expr.sizeOf_spec, Statement.assign.sizeOf_spec, Statement.openFile.sizeOf_spec,
        Statement.writeFile.sizeOf_spec] <;>
      omega
  case branch =>
    rw [Statement.branch.sizeOf_spec]
    obtain member | member := member
    · have := sizeOf_lt_of_mem_arms member
      omega
    · have := sizeOf_lt_of_mem_body member
      omega
  case forRange =>
    rw [Statement.forRange.sizeOf_spec]
    obtain rfl | rfl | member | member := member
    · rw [expr.sizeOf_spec]
      omega
    · rw [expr.sizeOf_spec]
      omega
    · have := sizeOf_lt_of_mem_optional member
      omega
    · have := sizeOf_lt_of_mem_body member
      omega
  case doLoop condition _ _ =>
    rw [Statement.doLoop.sizeOf_spec]
    obtain member | member := member
    · rcases condition with _ | ⟨test, condition⟩
      · cases member
      · obtain rfl := List.mem_singleton.1 member
        rw [expr.sizeOf_spec, Option.some.sizeOf_spec, Prod.mk.sizeOf_spec]
        dsimp only
        omega
    · have := sizeOf_lt_of_mem_body member
      omega
  case forEach | whileLoop | withBlock =>
    simp only [Statement.forEach.sizeOf_spec, Statement.whileLoop.sizeOf_spec,
      Statement.withBlock.sizeOf_spec]
    obtain rfl | member := member
    · rw [expr.sizeOf_spec]
      omega
    · have := sizeOf_lt_of_mem_body member
      omega

theorem sizeOf_lt_of_mem_children {node child : Node} (member : child ∈ node.children) :
    sizeOf child < sizeOf node := by
  cases node with
  | expr part =>
      rw [expr.sizeOf_spec]
      exact sizeOf_lt_of_mem_ofExpr member
  | statement part =>
      rw [statement.sizeOf_spec]
      exact sizeOf_lt_of_mem_ofStatement member
  | procedure part =>
      obtain ⟨name, kind, parameters, returnType, body⟩ := part
      have : sizeOf child < 1 + sizeOf body := sizeOf_lt_of_mem_body member
      rw [procedure.sizeOf_spec, Procedure.mk.sizeOf_spec]
      omega

/-! ## All nodes of a part -/

/-- All nodes of a part: the part itself, then the nodes of its children, one after the other. -/
def nodes (node : Node) : List Node :=
  node :: node.children.attach.flatMap fun child => child.1.nodes
termination_by sizeOf node
decreasing_by exact sizeOf_lt_of_mem_children child.2

end Node

def Statement.nodesOfList (statements : List Statement) : List Node :=
  (statements.map .statement).flatMap Node.nodes

end MacroSandbox
