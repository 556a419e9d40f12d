import MacroSandbox.Proofs.NumeralTexts
import MacroSandbox.Proofs.PlainLoops
import MacroSandbox.Proofs.ReadNames
import MacroSandbox.Proofs.Separation

/-! Loops that compute with variables and with elements of lists. A variable is read only where it
has a value; plain loops are the loops among them that use no list. -/

namespace MacroSandbox

/-! ## The fragment -/

/-- What loops are made of: the names that they write to and those of the lists that they use, in
lower case, and the numbers that they combine to constant expressions. -/
structure LoopTerms where
  assigned : List String
  lists : List String
  changed : List String
  constants : Value → Bool

namespace Expr

/-- Whether the expression has only numbers among the terms in it if it is constant. -/
def keepsTo (terms : LoopTerms) (expression : Expr) : Bool :=
  !expression.isConstant || expression.numbers.all terms.constants

/-- Whether the expression is made of literals, variables among those that are bound, elements of
lists, and operators. -/
def computesWith (terms : LoopTerms) (bound : List String) : Expr → Bool
  | .literal value => !value.isReference
  | .var name => bound.contains (Text.asciiLower name)
  | .unary operator operand =>
      (unary operator operand).keepsTo terms && operand.computesWith terms bound
  | .binary operator left right =>
      (binary operator left right).keepsTo terms && left.computesWith terms bound &&
        right.computesWith terms bound
  | .call (.var name) [index] =>
      terms.lists.contains (Text.asciiLower name) && index.computesWith terms bound
  | _ => false

end Expr

namespace Statement

def gains : Statement → List String
  | .assign (.var name) _ => [Text.asciiLower name]
  | .forRange index .. => [Text.asciiLower index]
  | _ => []

mutual

/-- Whether the statement assigns to a variable or to an element, branches, loops over a range or on
a condition, or leaves a loop, and so do the statements in it. -/
def computesWith (terms : LoopTerms) (bound : List String) : Statement → Bool
  | .assign (.var name) value =>
      terms.assigned.contains (Text.asciiLower name) && value.computesWith terms bound
  | .assign (.call (.var name) [index]) value =>
      terms.changed.contains (Text.asciiLower name) && !LoweringContext.isOverwrite name &&
        index.computesWith terms bound && value.computesWith terms bound
  | .branch arms otherwise =>
      armsComputeWith terms bound arms && blockComputesWith terms bound otherwise
  | .forRange index start finish step body =>
      terms.assigned.contains (Text.asciiLower index) && start.computesWith terms bound &&
        finish.computesWith terms bound && step.all (·.computesWith terms bound) &&
        blockComputesWith terms (Text.asciiLower index :: bound) body
  | .whileLoop condition body =>
      condition.computesWith terms bound && blockComputesWith terms bound body
  | .doLoop condition _ body =>
      condition.all (·.2.computesWith terms bound) && blockComputesWith terms bound body
  | .exit .for | .exit .do => true
  | _ => false

def armsComputeWith (terms : LoopTerms) (bound : List String) : List Arm → Bool
  | [] => true
  | arm :: rest => armComputesWith terms bound arm && armsComputeWith terms bound rest

def armComputesWith (terms : LoopTerms) (bound : List String) : Arm → Bool
  | .mk condition body =>
      condition.computesWith terms bound && blockComputesWith terms bound body

def blockComputesWith (terms : LoopTerms) (bound : List String) : List Statement → Bool
  | [] => true
  | statement :: rest =>
      statement.computesWith terms bound && blockComputesWith terms (statement.gains ++ bound) rest

end

end Statement

/-! ## Plain loops -/

namespace Expr

variable {terms : LoopTerms} {bound : List String}

theorem isNumeral_of_mentionsVariable : ∀ {expression : Expr},
    expression.mentionsVariable = true → expression.isNumeral = false
  | .var _, _ => rfl
  | .unary .negate operand, mentions => @isNumeral_of_mentionsVariable operand mentions
  | .unary .complement _, _ => rfl
  | .binary _ left right, mentions => by
      simp only [mentionsVariable, Bool.or_eq_true] at mentions
      rcases mentions with mentions | mentions <;>
        simp [isNumeral, isNumeral_of_mentionsVariable mentions]
  | .literal _, mentions | .receiver, mentions | .member .., mentions | .call .., mentions => by
      cases mentions

end Expr

namespace Statement

theorem arePlain_iff {statements : List Statement} :
    arePlain statements = true ↔ ∀ statement ∈ statements, statement.isPlain = true := by
  induction statements with
  | nil => simp [arePlain]
  | cons statement rest induction => simp [arePlain, induction]

theorem arePlainArms_iff {arms : List Arm} :
    arePlainArms arms = true ↔ ∀ arm ∈ arms, isPlainArm arm = true := by
  induction arms with
  | nil => simp [arePlainArms]
  | cons arm rest induction => simp [arePlainArms, induction]

end Statement

namespace Node

def IsPlain : Node → Prop
  | .expr part => part.isPlain = true
  | .statement part => part.isPlain = true
  | .procedure _ => False

namespace IsPlain

variable {node inner : Node}

theorem part (plain : node.IsPlain) (isPart : node.HasPart inner) : inner.IsPlain := by
  cases isPart with
  | target =>
      rename_i target value
      cases target <;> first | rfl | cases plain
  | value =>
      rename_i target value
      cases target with
      | var => exact plain
      | _ => cases plain
  | condition arm | guarded arm =>
      simp only [IsPlain, Statement.isPlain, Bool.and_eq_true, Statement.arePlainArms_iff] at plain
      have armPlain := plain.1 _ arm
      simp_all [IsPlain, Statement.isPlainArm, Statement.arePlain_iff]
  | _ => simp_all [IsPlain, Expr.isPlain, Statement.isPlain, Statement.arePlain_iff]

theorem of_contains (plain : node.IsPlain) (contains : node.Contains inner) : inner.IsPlain := by
  induction contains with
  | refl => exact plain
  | tail _ isPart induction => exact induction.part isPart

theorem callees_eq_nil (plain : node.IsPlain) : node.reads.callees = [] := by
  refine List.eq_nil_iff_forall_not_mem.2 fun key called => ?_
  obtain ⟨name, -, ⟨arguments, contains⟩ | contains⟩ := mem_callees_reads_iff.1 called <;>
    cases plain.of_contains contains

end IsPlain

end Node

structure LoopTerms.Includes (terms : LoopTerms) (bound : List String) (node : Node) : Prop where
  reads : ∀ name, node.Contains (.expr (.var name)) → Text.asciiLower name ∈ bound
  writes : ∀ inner, node.Contains inner → ∀ name, inner.writtenName? = some name →
    name ∈ terms.assigned

namespace LoopTerms.Includes

variable {terms : LoopTerms} {bound : List String} {node inner : Node}

theorem part (includes : terms.Includes bound node) (isPart : node.HasPart inner) :
    terms.Includes bound inner where
  reads name contains := includes.reads name (.head isPart contains)
  writes below contains := includes.writes below (.head isPart contains)

theorem arm {arms : List Arm} {otherwise : List Statement} {arm : Arm}
    (includes : terms.Includes bound (.statement (.branch arms otherwise))) (member : arm ∈ arms) :
    ∀ child ∈ arm.nodes, terms.Includes bound child := by
  intro child inArm
  obtain ⟨condition, body, rfl, rfl | ⟨statement, inBody, rfl⟩⟩ := Node.mem_arm_nodes.1 inArm
  · exact includes.part (.condition member)
  · exact includes.part (.guarded member inBody)

theorem mono {more : List String} (includes : terms.Includes bound node)
    (areMore : ∀ name ∈ bound, name ∈ more) : terms.Includes more node where
  reads name contains := areMore _ (includes.reads name contains)
  writes := includes.writes

theorem writtenName {name : String} (includes : terms.Includes bound node)
    (written : node.writtenName? = some name) : name ∈ terms.assigned :=
  includes.writes node (.refl node) name written

end LoopTerms.Includes

section

variable {terms : LoopTerms} {bound : List String}

theorem Expr.computesWith_of_isPlain : ∀ {expression : Expr}, expression.isPlain = true →
    terms.Includes bound (.expr expression) → expression.computesWith terms bound = true
  | .literal (.integer _), _, _ | .literal (.boolean _), _, _ | .literal (.text _), _, _ => rfl
  | .var name, _, includes => List.contains_iff_mem.2 (includes.reads name (.refl _))
  | .unary operator operand, plain, includes => by
      simp only [isPlain, Bool.and_eq_true] at plain
      have notConstant : (unary operator operand).isConstant = false :=
        @isNumeral_of_mentionsVariable (.unary operator operand) plain.1
      simp [computesWith, keepsTo, notConstant,
        computesWith_of_isPlain plain.2 (includes.part .operand)]
  | .binary operator left right, plain, includes => by
      simp only [isPlain, Bool.and_eq_true, Bool.or_eq_true] at plain
      have notConstant : (binary operator left right).isConstant = false :=
        isNumeral_of_mentionsVariable (by simpa [mentionsVariable] using plain.1.1)
      simp [computesWith, keepsTo, notConstant,
        computesWith_of_isPlain plain.1.2 (includes.part .left),
        computesWith_of_isPlain plain.2 (includes.part .right)]

namespace Statement

mutual

theorem computesWith_of_isPlain : ∀ {statement : Statement} {bound : List String},
    statement.isPlain = true → terms.Includes bound (.statement statement) →
    statement.computesWith terms bound = true
  | .assign (.var _) value, bound, plain, includes => by
      rw [isPlain] at plain
      simp only [computesWith, Bool.and_eq_true, List.contains_iff_mem]
      exact ⟨includes.writtenName rfl,
        Expr.computesWith_of_isPlain plain (includes.part .value)⟩
  | .branch arms otherwise, bound, plain, includes => by
      simp only [isPlain, Bool.and_eq_true] at plain
      simp only [computesWith, Bool.and_eq_true]
      exact ⟨armsComputeWith_of_arePlainArms plain.1 fun arm member => includes.arm member,
        blockComputesWith_of_arePlain plain.2 fun statement member =>
          includes.part (.otherwise member)⟩
  | .forRange index start finish step body, bound, plain, includes => by
      simp only [isPlain, Bool.and_eq_true] at plain
      simp only [computesWith, Bool.and_eq_true, List.contains_iff_mem]
      refine ⟨⟨⟨⟨includes.writtenName rfl, ?_⟩, ?_⟩, ?_⟩, ?_⟩
      · exact Expr.computesWith_of_isPlain plain.1.1.1 (includes.part .start)
      · exact Expr.computesWith_of_isPlain plain.1.1.2 (includes.part .finish)
      · cases step with
        | none => rfl
        | some step => exact Expr.computesWith_of_isPlain plain.1.2 (includes.part .step)
      · exact blockComputesWith_of_arePlain plain.2 fun statement member =>
          (includes.part (.inRange member)).mono fun _ => .tail _
  | .whileLoop condition body, bound, plain, includes => by
      simp only [isPlain, Bool.and_eq_true] at plain
      simp only [computesWith, Bool.and_eq_true]
      exact ⟨Expr.computesWith_of_isPlain plain.1 (includes.part .whileTest),
        blockComputesWith_of_arePlain plain.2 fun statement member =>
          includes.part (.inWhile member)⟩
  | .doLoop condition _ body, bound, plain, includes => by
      simp only [isPlain, Bool.and_eq_true] at plain
      simp only [computesWith, Bool.and_eq_true]
      refine ⟨?_, blockComputesWith_of_arePlain plain.2 fun statement member =>
        includes.part (.inDo member)⟩
      cases condition with
      | none => rfl
      | some test => exact Expr.computesWith_of_isPlain plain.1 (includes.part .doTest)
  | .exit .for, bound, _, _ | .exit .do, bound, _, _ => rfl
  | .exit .sub, bound, plain, _ | .exit .function, bound, plain, _
  | .dim _, bound, plain, _ | .call _, bound, plain, _ | .forEach .., bound, plain, _
  | .withBlock .., bound, plain, _ | .onError _, bound, plain, _ | .label _, bound, plain, _
  | .openFile .., bound, plain, _ | .writeFile .., bound, plain, _ | .closeFiles _, bound, plain, _
  | .assign (.literal _) _, bound, plain, _ | .assign .receiver _, bound, plain, _
  | .assign (.unary ..) _, bound, plain, _ | .assign (.binary ..) _, bound, plain, _
  | .assign (.member ..) _, bound, plain, _ | .assign (.call ..) _, bound, plain, _ => by
      simp [isPlain] at plain

theorem armsComputeWith_of_arePlainArms : ∀ {arms : List Arm} {bound : List String},
    arePlainArms arms = true → (∀ arm ∈ arms, ∀ child ∈ arm.nodes, terms.Includes bound child) →
    armsComputeWith terms bound arms = true
  | [], bound, _, _ => rfl
  | arm :: rest, bound, plain, includes => by
      simp only [arePlainArms, Bool.and_eq_true] at plain
      simp only [armsComputeWith, Bool.and_eq_true]
      exact ⟨armComputesWith_of_isPlainArm plain.1 (includes arm (.head _)),
        armsComputeWith_of_arePlainArms plain.2 fun other member => includes other (.tail _ member)⟩

theorem armComputesWith_of_isPlainArm : ∀ {arm : Arm} {bound : List String},
    isPlainArm arm = true → (∀ child ∈ arm.nodes, terms.Includes bound child) →
    armComputesWith terms bound arm = true
  | .mk condition body, bound, plain, includes => by
      simp only [isPlainArm, Bool.and_eq_true] at plain
      simp only [armComputesWith, Bool.and_eq_true]
      exact ⟨Expr.computesWith_of_isPlain plain.1 (includes _ (.head _)),
        blockComputesWith_of_arePlain plain.2 fun statement member =>
          includes _ (.tail _ (List.mem_map_of_mem member))⟩

theorem blockComputesWith_of_arePlain : ∀ {statements : List Statement} {bound : List String},
    arePlain statements = true →
    (∀ statement ∈ statements, terms.Includes bound (.statement statement)) →
    blockComputesWith terms bound statements = true
  | [], bound, _, _ => rfl
  | statement :: rest, bound, plain, includes => by
      simp only [arePlain, Bool.and_eq_true] at plain
      simp only [blockComputesWith, Bool.and_eq_true]
      exact ⟨computesWith_of_isPlain plain.1 (includes statement (.head _)),
        blockComputesWith_of_arePlain plain.2 fun other member =>
          (includes other (.tail _ member)).mono fun _ => List.mem_append_right _⟩

end

end Statement

end

end MacroSandbox
