import MacroSandbox.Proofs.ConstantCache
import MacroSandbox.Proofs.Repeatability

/-! A constant expression is computed once.

Its value is remembered as soon as it is known, nothing that is evaluated later forgets or replaces it,
and from then on the expression is answered from the caches, whatever state asks. -/

namespace MacroSandbox

/-! ## Evaluations that share caches -/

namespace Eval

/-- The evaluations that ask caches: of expressions and names, of statements and procedures, of loops
that are offered to the compiler, and of whole modules. -/
inductive IsEvaluation : {α : Type} → Eval α → Prop
  | node (expression : Expr) : IsEvaluation (Eval.node expression)
  | operand (expression : Expr) : IsEvaluation (Eval.operand expression)
  | resolve (variableExpected : Bool) (name : String) :
      IsEvaluation (Eval.resolve variableExpected name)
  | receiver : IsEvaluation Eval.receiverValue?
  | statement (statement : Statement) : IsEvaluation (Eval.statement statement)
  | block (statements : List Statement) : IsEvaluation (Eval.block statements)
  | call (procedure : Procedure) (arguments : List Value) :
      IsEvaluation (Eval.call procedure arguments)
  | handleError : IsEvaluation Eval.handleError
  | compileLoop (loop : Statement) : IsEvaluation (Eval.compileLoop loop)
  | load (source : Module) : IsEvaluation source.load
  | runOne (source : Module) (procedure : Procedure) (arguments : List Value) :
      IsEvaluation (source.runOne procedure arguments)
  | runAll (source : Module) : IsEvaluation source.runAll

theorem IsEvaluation.grows {α : Type} {action : Eval α} (isEvaluation : action.IsEvaluation) :
    action.Leads State.Grows := by
  have composed := Engine.within_isComposed Engine.maxNesting
  -- Whether an evaluation may handle errors makes no difference to the caches.
  have ofRaising {β : Type} {part : Eval β} (isComposed : part.IsComposed .raises) :
      part.Leads State.Grows :=
    isComposed.grows
  cases isEvaluation with
  | node expression => exact ofRaising (composed.nodeValue expression)
  | operand expression => exact ofRaising (Engine.operandValue_isComposed composed expression)
  | resolve variableExpected name => exact ofRaising (composed.resolve variableExpected name)
  | receiver => exact ofRaising (.receiver composed.node)
  | statement statement =>
      exact (composed.runStatement (ErrorRole.admits_directs _)).grows
  | block statements =>
      exact (composed.runBlock statements (ErrorRole.admits_directs _)).grows
  | call procedure arguments =>
      exact ofRaising (.call (composed.runInFrame procedure arguments))
  | handleError => exact composed.handleError.grows
  | compileLoop loop => exact ofRaising (.compileLoop loop)
  | load source => exact source.load_isComposed.grows
  | runOne source procedure arguments => exact (source.runOne_isComposed procedure arguments).grows
  | runAll source =>
      have steady : ({} : Caches).IsSteady := Caches.isSteady_of_loops rfl rfl
      exact (source.runAll_repeats steady).grows

end Eval

namespace Caches

variable {before after : Caches}

/-- What may become of caches: evaluations follow one another, each in any state that has the caches at
that time. -/
inductive Develop (before : Caches) : Caches → Prop
  | nothing : Develop before before
  | evaluated {α : Type} {action : Eval α} (environment : Environment) (state : State)
      (earlier : Develop before state.caches) (isEvaluation : action.IsEvaluation) :
      Develop before (action.after environment state).caches

theorem Develop.grow (develop : before.Develop after) : before.Grow after := by
  induction develop with
  | nothing => exact .of_same rfl rfl
  | evaluated environment state _ isEvaluation grown =>
      exact grown.trans (isEvaluation.grows environment state).caches

theorem Develop.areComputed (develop : before.Develop after)
    (computed : before.AreComputed fun _ => True) : after.AreComputed fun _ => True := by
  induction develop with
  | nothing => exact computed
  | evaluated environment state _ isEvaluation stillComputed =>
      exact (isEvaluation.grows environment state).computed stillComputed

theorem constant?_of_get? {caches : Caches} {source : String} {value : Value}
    (known : caches.constants.get? source = some value) :
    caches.constant? source =
      (some value,
        { caches with statistics.constantHits := caches.statistics.constantHits + 1 }) := by
  rw [constant?, known]

end Caches

/-! ## Limits -/

/-- A limiter that has no calls under way at first, and is then changed by its own operations. -/
inductive Limiter.Arises : Limiter → Prop
  | new (maxDepth : Nat) (budget : Duration) : Arises (.new maxDepth budget)
  | tick {limiter : Limiter} (arises : Arises limiter) : Arises limiter.tick.2
  | enter {limiter inner : Limiter} (arises : Arises limiter)
      (entered : limiter.enter = .ok inner) : Arises inner
  | leave {limiter : Limiter} (arises : Arises limiter) : Arises limiter.leave

theorem Limiter.Arises.depth_le {limiter : Limiter} (arises : limiter.Arises) :
    limiter.depth ≤ limiter.maxDepth := by
  induction arises with
  | new maxDepth budget => exact Nat.zero_le maxDepth
  | tick _ within => exact within
  | enter _ entered _ =>
      unfold Limiter.enter at entered
      dsimp only at entered
      split at entered
      · cases entered
      · cases entered
        exact Nat.not_lt.1 ‹_›
  | leave _ within => exact Nat.le_trans (Nat.sub_le _ 1) within

/-! ## Answers -/

namespace Eval

variable {environment : Environment} {state : State} {expression : Expr} {value : Value}

theorem get?_of_operand_answered (isConstant : expression.isConstant = true)
    (computed : state.caches.AreComputed fun _ => True)
    (answered : (operand expression).outcome environment state = .ok value) :
    ((operand expression).after environment state).caches.constants.get? (expression.render {}) =
      some value := by
  have isNumeral := Expr.isNumeral_of_isConstant isConstant
  unfold outcome at answered
  unfold after
  rw [operand_eq] at answered ⊢
  rcases @check_cases environment state with passed | ⟨_, stop, _, refused⟩
  · rw [Engine.operandValue_eq_constantValue _ isConstant passed,
      Engine.constantValue_eq _ isNumeral] at answered ⊢
    cases known : state.caches.constants.get? (expression.render {}) with
    | some remembered =>
        rw [known] at answered
        cases answered
        dsimp only
        rw [Caches.constants_constant?]
        exact known
    | none =>
        rw [known] at answered
        rcases @Engine.nodeValue_isAnswered _ environment expression isConstant
          (fun _ _ => trivial) Engine.maxNesting
          { state with caches := (state.caches.constant? (expression.render {})).2 }
          (computed.constant? _) with ⟨answer, caches, ticks, isAnswer, _, agrees, ended⟩
        simp only [ended] at answered ⊢
        cases answer with
        | error stop => cases answered
        | ok found =>
            cases answered
            rcases isAnswer with ⟨other, like, isValue⟩ | ⟨_, _, _, impossible⟩
            · -- What the operands left is remembered under shorter texts.
              have unknown : caches.constants.get? (expression.render {}) = none := by
                rw [agrees _ (Nat.le_refl _)]
                dsimp only
                rw [Caches.constants_constant?]
                exact known
              exact Caches.get?_storeConstant
                (Expr.isNumeric_of_computed like.isNumeral (Expr.eq_ok_of_mapError isValue.symm))
                unknown
            · cases impossible
  · rw [Engine.operandValue_of_check_error _ refused] at answered
    cases answered

theorem operand_of_get? (isConstant : expression.isConstant = true)
    (known : state.caches.constants.get? (expression.render {}) = some value)
    (within : state.run.limiter.depth ≤ state.run.limiter.maxDepth)
    (awake : state.run.limiter.expired = false) :
    operand expression environment state =
      .ok value { state with
        caches.statistics.constantHits := state.caches.statistics.constantHits + 1 } := by
  have passed : Eval.check environment state = .ok () state := check_eq ⟨within, awake⟩
  rw [operand_eq, Engine.operandValue_eq_constantValue _ isConstant passed,
    Engine.constantValue_eq _ (Expr.isNumeral_of_isConstant isConstant), known,
    Caches.constant?_of_get? known]

/-- A constant expression is computed once. If it was answered with a value in one state, it is answered
with that value in every state that has the caches later, whatever was evaluated in between. One hit is
counted; nothing else changes, no miss is counted and nothing is added to what is remembered. -/
theorem operand_computed_once {environment later : Environment} {first second : State}
    {expression : Expr} {value : Value} (isConstant : expression.isConstant = true)
    (shared : ({} : Caches).Develop first.caches)
    (answered : (operand expression).outcome environment first = .ok value)
    (followed : ((operand expression).after environment first).caches.Develop second.caches)
    (limited : second.run.limiter.Arises) (awake : second.run.limiter.expired = false) :
    operand expression later second =
      .ok value { second with
        caches.statistics.constantHits := second.caches.statistics.constantHits + 1 } := by
  have known := get?_of_operand_answered isConstant (shared.areComputed Caches.areComputed_empty)
    answered
  exact operand_of_get? isConstant (followed.grow.constants _ _ known) limited.depth_le awake

private def smallSum : Expr :=
  .binary .add (.literal (.integer 1)) (.literal (.integer 2))

private def productOfSum : Expr :=
  .binary .multiply smallSum (.literal (.integer 4))

private def strictEnvironment : Environment :=
  { policy := { maxCallDepth := 1 } }

/-- After a sum was computed, and then a product of it, a run under another policy finds the sum. -/
theorem operand_computed_once_elsewhere :
    let start := State.start {} none {} {}
    let shared := ((operand productOfSum).after {} ((operand smallSum).after {} start)).caches
    let second := State.start strictEnvironment none {} shared
    operand smallSum strictEnvironment second =
      .ok (.integer 3) { second with
        caches.statistics.constantHits := second.caches.statistics.constantHits + 1 } := by
  intro start shared second
  have answered : (operand smallSum).outcome {} (State.start {} none {} {}) = .ok (.integer 3) := rfl
  have followed : ((operand smallSum).after {} start).caches.Develop second.caches :=
    .evaluated {} _ .nothing (.operand productOfSum)
  exact operand_computed_once rfl .nothing answered followed (.new _ _) rfl

end Eval

end MacroSandbox
