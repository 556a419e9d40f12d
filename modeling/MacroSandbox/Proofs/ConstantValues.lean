import MacroSandbox.Evaluation.Interpreter
import MacroSandbox.Proofs.NumeralTexts
import MacroSandbox.Proofs.Running

/-! Values of constant expressions, and how expressions are answered from what is remembered.

Values are remembered under the texts of expressions, so what is found for an expression is the value
of one that reads the same. -/

namespace MacroSandbox

namespace Expr

/-! ## Values of constant expressions -/

/-- The value of a constant expression, which depends on nothing else. -/
def computed : Expr → Except Fault Value
  | .literal value => .ok value
  | .unary operator operand => operand.computed.map operator.apply
  | .binary operator left right =>
      left.computed.bind fun left => right.computed.bind fun right => operator.apply {} left right
  | _ => .ok .null

theorem isNumeral_of_isConstant {expression : Expr} (isConstant : expression.isConstant = true) :
    expression.isNumeral = true := by
  cases expression with
  | unary | binary => exact isConstant
  | _ => cases isConstant

theorem isNumeric_arithmetic (onIntegers : Int → Int → Int) (onFloats : Float → Float → Float)
    (left right : Value) : (arithmetic onIntegers onFloats left right).isNumeric = true := by
  unfold arithmetic
  split
  · dsimp only
    split <;> rfl
  · rfl

theorem isNumeric_of_apply {operator : BinaryOperator} {left right : Expr}
    (isNumeral : (binary operator left right).isNumeral = true) {leftValue rightValue value : Value}
    (leftNumeric : leftValue.isNumeric = true)
    (applied : operator.apply {} leftValue rightValue = .ok value) : value.isNumeric = true := by
  cases operator with
  | add =>
      unfold BinaryOperator.apply at applied
      dsimp only at applied
      split at applied
      · cases leftNumeric
      · split at applied
        · cases applied
          exact isNumeric_arithmetic _ _ _ _
        · cases applied
  | subtract | multiply =>
      cases applied
      exact isNumeric_arithmetic _ _ _ _
  | divide =>
      unfold BinaryOperator.apply at applied
      dsimp only at applied
      split at applied <;> cases applied
      rfl
  | _ => cases isNumeral

theorem computed_unary_eq_ok {operator : UnaryOperator} {operand : Expr} {value : Value} :
    (unary operator operand).computed = .ok value ↔
      ∃ held, operand.computed = .ok held ∧ operator.apply held = value := by
  rw [computed]
  cases operand.computed <;> simp [Except.map]

theorem computed_binary_eq_ok {operator : BinaryOperator} {left right : Expr} {value : Value} :
    (binary operator left right).computed = .ok value ↔
      ∃ first second, left.computed = .ok first ∧ right.computed = .ok second ∧
        operator.apply {} first second = .ok value := by
  rw [computed]
  cases left.computed <;> cases right.computed <;> simp [Except.bind]

theorem isNumeric_of_computed {expression : Expr} (isNumeral : expression.isNumeral = true)
    {value : Value} (isValue : expression.computed = .ok value) : value.isNumeric = true := by
  induction expression, isNumeral using induction_of_isNumeral generalizing value with
  | number number isNumeral =>
      cases isValue
      exact isNumeric_of_isNumeral isNumeral
  | negation operand _ _ =>
      obtain ⟨held, _, rfl⟩ := computed_unary_eq_ok.1 isValue
      unfold UnaryOperator.apply
      dsimp only
      split <;> rfl
  | operation operator left right isNumeral inLeft _ =>
      obtain ⟨first, second, leftOutcome, _, applied⟩ := computed_binary_eq_ok.1 isValue
      exact isNumeric_of_apply isNumeral (inLeft leftOutcome) applied

def nesting : Expr → Nat
  | .unary _ operand => operand.nesting + 1
  | .binary _ left right => max left.nesting right.nesting + 1
  | _ => 0

structure ReadsLike (numbers : Value → Prop) (other expression : Expr) : Prop where
  isNumeral : other.isNumeral = true
  inside : ∀ number ∈ other.numbers, numbers number
  sameTree : other.tree = expression.tree

namespace ReadsLike

variable {numbers : Value → Prop} {other expression otherLeft otherRight left right : Expr}

theorem sameText (like : other.ReadsLike numbers expression)
    (isNumeral : expression.isNumeral = true) : other.render {} = expression.render {} := by
  rw [← String.toList_inj, ← text_tree {} (isFormula_of_isNumeral like.isNumeral), like.sameTree,
    text_tree {} (isFormula_of_isNumeral isNumeral)]

theorem refl (isNumeral : expression.isNumeral = true)
    (inside : ∀ number ∈ expression.numbers, numbers number) :
    expression.ReadsLike numbers expression :=
  { isNumeral, inside, sameTree := rfl }

theorem negate (like : other.ReadsLike numbers expression) :
    (unary .negate other).ReadsLike numbers (unary .negate expression) :=
  { isNumeral := like.isNumeral
    inside := like.inside
    sameTree := by rw [tree, tree, like.sameTree] }

theorem binary {operator : BinaryOperator}
    (isNumeral : (Expr.binary operator left right).isNumeral = true)
    (inLeft : otherLeft.ReadsLike numbers left) (inRight : otherRight.ReadsLike numbers right) :
    (Expr.binary operator otherLeft otherRight).ReadsLike numbers (.binary operator left right) where
  isNumeral := by
    simp only [Expr.isNumeral, Bool.and_eq_true] at isNumeral ⊢
    exact ⟨⟨isNumeral.1.1, inLeft.isNumeral⟩, inRight.isNumeral⟩
  inside := by
    intro number member
    rcases List.mem_append.1 member with isLeft | isRight
    · exact inLeft.inside number isLeft
    · exact inRight.inside number isRight
  sameTree := by rw [tree, tree, inLeft.sameTree, inRight.sameTree]

end ReadsLike

end Expr

/-! ## Remembered values -/

namespace Caches

variable {numbers : Value → Prop} {caches : Caches}

def AreComputed (numbers : Value → Prop) (caches : Caches) : Prop :=
  ∀ source value, caches.constants.get? source = some value →
    ∃ other : Expr, other.isNumeral = true ∧ (∀ number ∈ other.numbers, numbers number) ∧
      other.render {} = source ∧ other.computed = .ok value

theorem fst_constant? (caches : Caches) (source : String) :
    (caches.constant? source).1 = caches.constants.get? source := by
  unfold constant?
  split <;> exact Eq.symm ‹_›

theorem constants_constant? (caches : Caches) (source : String) :
    (caches.constant? source).2.constants = caches.constants := by
  unfold constant?
  split <;> rfl

theorem loops_constant? (caches : Caches) (source : String) :
    (caches.constant? source).2.loops = caches.loops := by
  unfold constant?
  split <;> rfl

theorem get?_storeConstant {source : String} {value : Value} (isNumeric : value.isNumeric = true)
    (unknown : caches.constants.get? source = none) :
    (caches.storeConstant source value).constants.get? source = some value := by
  have absent : source ∉ caches.constants := by
    intro member
    rw [Std.TreeMap.mem_iff_isSome_getElem?, ← Std.TreeMap.get?_eq_getElem?, unknown] at member
    cases member
  unfold storeConstant
  rw [if_pos isNumeric, Std.TreeMap.get?_eq_getElem?, Std.TreeMap.getElem?_insertIfNew,
    if_pos ⟨Std.LawfulEqCmp.compare_eq_iff_eq.2 rfl, absent⟩]

theorem areComputed_empty : ({} : Caches).AreComputed numbers := by
  intro source value found
  rw [Std.TreeMap.get?_eq_getElem?, Std.TreeMap.getElem?_emptyc] at found
  cases found

theorem AreComputed.constant? (computed : caches.AreComputed numbers) (source : String) :
    (caches.constant? source).2.AreComputed numbers := by
  unfold AreComputed
  rw [constants_constant?]
  exact computed

theorem AreComputed.storeConstant {expression : Expr} {value : Value}
    (computed : caches.AreComputed numbers) (isNumeral : expression.isNumeral = true)
    (inside : ∀ number ∈ expression.numbers, numbers number)
    (isValue : expression.computed = .ok value) {source : String}
    (sameText : expression.render {} = source) :
    (caches.storeConstant source value).AreComputed numbers := by
  unfold Caches.storeConstant
  split
  · intro asked found inserted
    rw [Std.TreeMap.get?_eq_getElem?, Std.TreeMap.getElem?_insertIfNew] at inserted
    split at inserted
    · rename_i isNew
      cases inserted
      exact ⟨expression, isNumeral, inside,
        sameText.trans (Std.LawfulEqCmp.compare_eq_iff_eq.1 isNew.1), isValue⟩
    · exact computed asked found inserted
  · exact computed

end Caches

/-! ## Evaluations -/

namespace Caches

variable {length longer : Nat} {caches between other : Caches}

/-- Nothing else is remembered for texts of a length and for longer ones. -/
def AgreesFrom (length : Nat) (caches other : Caches) : Prop :=
  ∀ source : String, length ≤ source.length →
    caches.constants.get? source = other.constants.get? source

theorem AgreesFrom.refl (caches : Caches) : caches.AgreesFrom length caches :=
  fun _ _ => rfl

theorem AgreesFrom.trans (left : caches.AgreesFrom length between)
    (right : between.AgreesFrom length other) : caches.AgreesFrom length other :=
  fun source long => (left source long).trans (right source long)

theorem AgreesFrom.weaken (agrees : caches.AgreesFrom length other) (shorter : length ≤ longer) :
    caches.AgreesFrom longer other :=
  fun source long => agrees source (Nat.le_trans shorter long)

theorem AgreesFrom.storeConstant (agrees : caches.AgreesFrom length other) {source : String}
    (short : source.length < length) (value : Value) :
    (caches.storeConstant source value).AgreesFrom length other := by
  unfold Caches.storeConstant
  split
  · intro asked long
    have differs : ¬ compare source asked = .eq := by
      intro same
      rw [Std.LawfulEqCmp.compare_eq_iff_eq.1 same] at short
      exact Nat.not_lt.2 long short
    rw [← agrees asked long, Std.TreeMap.get?_eq_getElem?, Std.TreeMap.getElem?_insertIfNew,
      if_neg fun isNew => differs isNew.1]
    rfl
  · exact agrees

end Caches

namespace Expr

variable {numbers : Value → Prop} {fits fitsToo : Prop} {expression : Expr} {length longer : Nat}
  {state : State} {result : EStateM.Result Interruption State Value}

theorem eq_ok_of_mapError {outcome : Except Fault Value} {value : Value}
    (ended : outcome.mapError Interruption.fault = .ok value) : outcome = .ok value := by
  cases outcome with
  | ok found => exact congrArg Except.ok (Except.ok.inj ended)
  | error fault => cases ended

theorem exists_error_of_mapError {outcome : Except Fault Value} {stop : Interruption}
    (ended : outcome.mapError Interruption.fault = .error stop) : ∃ fault, outcome = .error fault := by
  cases outcome with
  | ok found => cases ended
  | error fault => exact ⟨fault, rfl⟩

/-- The answer is the value of an expression that reads the same or, unless the expression fits into
what is left of the limits, the end of the run. -/
def IsAnswer (numbers : Value → Prop) (fits : Prop) (expression : Expr)
    (answer : Except Interruption Value) : Prop :=
  (∃ other : Expr, other.ReadsLike numbers expression ∧ answer = other.computed.mapError .fault) ∨
    ¬ fits ∧ ∃ stop : Interruption, stop.isFinal = true ∧ answer = .error stop

/-- The end of an evaluation that answers an expression, and changes only the ticks and what is
remembered for texts below a length. -/
def IsAnswered (numbers : Value → Prop) (fits : Prop) (length : Nat) (expression : Expr)
    (state : State) (result : EStateM.Result Interruption State Value) : Prop :=
  ∃ (answer : Except Interruption Value) (caches : Caches) (ticks : UInt64),
    expression.IsAnswer numbers fits answer ∧ caches.AreComputed numbers ∧
      caches.AgreesFrom length state.caches ∧
      result = Eval.answer answer { state with caches, run.limiter.ticks := ticks }

theorem IsAnswer.weaken {answer : Except Interruption Value}
    (isAnswer : expression.IsAnswer numbers fits answer) (implies : fitsToo → fits) :
    expression.IsAnswer numbers fitsToo answer :=
  isAnswer.imp_right fun ⟨misfits, final⟩ => ⟨fun fitting => misfits (implies fitting), final⟩

theorem IsAnswered.weaken (answered : expression.IsAnswered numbers fits length state result)
    (implies : fitsToo → fits) (shorter : length ≤ longer) :
    expression.IsAnswered numbers fitsToo longer state result := by
  rcases answered with ⟨answer, caches, ticks, isAnswer, computed, agrees, ended⟩
  exact ⟨answer, caches, ticks, isAnswer.weaken implies, computed, agrees.weaken shorter, ended⟩

theorem isAnswered_of_isFinal {stop : Interruption} (computed : state.caches.AreComputed numbers)
    (misfits : ¬ fits) (isFinal : stop.isFinal = true) (ticks : UInt64) :
    expression.IsAnswered numbers fits length state (.error stop (state.withTicks ticks)) :=
  ⟨.error stop, state.caches, ticks, .inr ⟨misfits, stop, isFinal, rfl⟩, computed, .refl _, rfl⟩

theorem IsAnswer.negate {operand : Expr} {answer : Except Interruption Value}
    (isAnswer : operand.IsAnswer numbers fits answer) :
    (unary .negate operand).IsAnswer numbers fits (answer.map UnaryOperator.negate.apply) := by
  rcases isAnswer with ⟨other, like, rfl⟩ | ⟨misfits, stop, isFinal, rfl⟩
  · refine .inl ⟨.unary .negate other, like.negate, ?_⟩
    rw [computed]
    cases other.computed <;> rfl
  · exact .inr ⟨misfits, stop, isFinal, rfl⟩

theorem IsAnswer.interruptedLeft {operator : BinaryOperator} {left right : Expr}
    {stop : Interruption} (isNumeral : (binary operator left right).isNumeral = true)
    (inside : ∀ number ∈ right.numbers, numbers number)
    (isAnswer : left.IsAnswer numbers fits (.error stop)) :
    (binary operator left right).IsAnswer numbers fits (.error stop) := by
  rcases isAnswer with ⟨other, like, ended⟩ | ⟨misfits, final⟩
  · refine .inl ⟨.binary operator other right,
      .binary isNumeral like (.refl (isNumeral_operands isNumeral).2 inside), ?_⟩
    rw [computed]
    cases outcome : other.computed with
    | ok value =>
        rw [outcome] at ended
        cases ended
    | error fault =>
        rw [outcome] at ended
        exact ended
  · exact .inr ⟨misfits, final⟩

theorem IsAnswer.binary {operator : BinaryOperator} {left right : Expr} {leftValue : Value}
    {answer : Except Interruption Value}
    (isNumeral : (Expr.binary operator left right).isNumeral = true)
    (inLeft : left.IsAnswer numbers fits (.ok leftValue))
    (inRight : right.IsAnswer numbers fits answer) :
    (Expr.binary operator left right).IsAnswer numbers fits
      (answer.bind fun rightValue =>
        (operator.apply {} leftValue rightValue).mapError .fault) := by
  rcases inLeft with ⟨otherLeft, likeLeft, leftEnded⟩ | ⟨_, _, _, impossible⟩
  · have leftComputed := eq_ok_of_mapError leftEnded.symm
    rcases inRight with ⟨otherRight, likeRight, rfl⟩ | ⟨misfits, stop, isFinal, rfl⟩
    · refine .inl ⟨.binary operator otherLeft otherRight, .binary isNumeral likeLeft likeRight, ?_⟩
      rw [computed, leftComputed]
      cases otherRight.computed <;> rfl
    · exact .inr ⟨misfits, stop, isFinal, rfl⟩
  · cases impossible

/-! ### Texts of operands -/

theorem length_parenthesize (needed : Bool) (text : String) :
    text.length ≤ (parenthesize needed text).length := by
  unfold parenthesize
  split
  · simp only [String.length_append]
    omega
  · exact Nat.le_refl _

theorem length_render_operand (operand : Expr) :
    (operand.render {}).length < ((unary .negate operand).render {}).length := by
  have longer := length_parenthesize operand.isBinary (operand.render {})
  rw [show (unary .negate operand).render {} =
    "-" ++ parenthesize operand.isBinary (operand.render {}) from rfl, String.length_append]
  have sign : "-".length = 1 := rfl
  omega

theorem length_render_operands (operator : BinaryOperator) (left right : Expr) :
    (left.render {}).length < ((binary operator left right).render {}).length ∧
      (right.render {}).length < ((binary operator left right).render {}).length := by
  have leftLonger := length_parenthesize (left.needsParentheses operator false) (left.render {})
  have rightLonger := length_parenthesize (right.needsParentheses operator true) (right.render {})
  rw [show (binary operator left right).render {} =
    parenthesize (left.needsParentheses operator false) (left.render {}) ++ " " ++
      operator.symbol ++ " " ++
      parenthesize (right.needsParentheses operator true) (right.render {}) from rfl]
  simp only [String.length_append]
  have blank : " ".length = 1 := rfl
  omega

end Expr

/-- The limits allow an evaluation that needs some of the levels that are left, however long it
takes. -/
def Limiter.Allows (limiter : Limiter) (needed levels : Nat) : Prop :=
  needed ≤ levels ∧ limiter.depth ≤ limiter.maxDepth ∧ limiter.deadline = none

namespace Eval

variable {environment : Environment} {state : State}

theorem check_cases :
    Eval.check environment state = .ok () state ∨
      (∀ needed levels, ¬ state.run.limiter.Allows needed levels) ∧
        ∃ stop : Interruption, stop.isFinal = true ∧
          Eval.check environment state = .error stop state := by
  unfold check Limiter.check
  split
  · exact .inl rfl
  · rename_i fault refused
    split at refused
    · cases refused
      exact .inr ⟨fun _ _ allows => Nat.not_lt.2 allows.2.1 ‹_›, _, rfl, rfl⟩
    · split at refused
      · rename_i late
        cases refused
        refine .inr ⟨fun _ _ allows => ?_, .fault .timeout, rfl, rfl⟩
        rw [Limiter.expired_of_deadline allows.2.2] at late
        cases late
      · cases refused

theorem tick_cases :
    Eval.tick environment state = .ok () (state.withTicks (state.run.limiter.ticks + 1)) ∨
      (∀ needed levels, ¬ state.run.limiter.Allows needed levels) ∧
        ∃ stop : Interruption, stop.isFinal = true ∧
          Eval.tick environment state =
            .error stop (state.withTicks (state.run.limiter.ticks + 1)) := by
  simp only [tick, Limiter.tick]
  split
  · exact .inl rfl
  · rename_i fault refused
    split at refused
    · cases refused
      exact .inr ⟨fun _ _ allows => Nat.not_lt.2 allows.2.1 ‹_›, _, rfl, rfl⟩
    · split at refused
      · rename_i late
        cases refused
        refine .inr ⟨fun _ _ allows => ?_, .fault .timeout, rfl, rfl⟩
        have expired := (Bool.and_eq_true_iff.1 late).2
        rw [Limiter.expired_of_deadline (by exact allows.2.2)] at expired
        cases expired
      · cases refused

end Eval

namespace Engine

variable {numbers : Value → Prop} {environment : Environment} {levels : Nat} {expression : Expr}
  {state : State}

theorem constantValue_eq (engine : Engine) (isNumeral : expression.isNumeral = true) :
    engine.constantValue expression environment state =
      match state.caches.constants.get? (expression.render {}) with
      | some value =>
          .ok value { state with caches := (state.caches.constant? (expression.render {})).2 }
      | none =>
        match engine.nodeValue expression environment
            { state with caches := (state.caches.constant? (expression.render {})).2 } with
        | .ok value after =>
            .ok value
              { after with caches := after.caches.storeConstant (expression.render {}) value }
        | .error stop after => .error stop after := by
  rw [← Caches.fst_constant?]
  simp only [constantValue, cachedConstant?, rememberConstant, Running.run_bind, Running.run_get,
    Running.run_modifyGet, Expr.render_of_isNumeral isNumeral]
  cases (state.caches.constant? (expression.render {})).1 with
  | some value => rfl
  | none =>
      simp only [Running.run_bind]
      cases engine.nodeValue expression environment
        { state with caches := (state.caches.constant? (expression.render {})).2 } <;> rfl

theorem constantValue_isAnswered_of_node {engine : Engine} {fits : Prop}
    (isNumeral : expression.isNumeral = true) (computed : state.caches.AreComputed numbers)
    (node : ∀ caches : Caches, caches.AreComputed numbers →
      expression.IsAnswered numbers fits (expression.render {}).length { state with caches }
        (engine.nodeValue expression environment { state with caches })) :
    expression.IsAnswered numbers fits ((expression.render {}).length + 1) state
      (engine.constantValue expression environment state) := by
  have asked : (state.caches.constant? (expression.render {})).2.AgreesFrom
      ((expression.render {}).length + 1) state.caches :=
    fun _ _ => by rw [Caches.constants_constant?]
  rw [constantValue_eq engine isNumeral]
  cases found : state.caches.constants.get? (expression.render {}) with
  | some value =>
      -- What is remembered under this text was computed from an expression that reads the same.
      rcases computed _ _ found with ⟨other, otherNumeral, inside, sameText, isValue⟩
      have sameTree := Expr.tree_eq_of_render_eq (Expr.isFormula_of_isNumeral otherNumeral)
        (Expr.isFormula_of_isNumeral isNumeral) sameText
      refine ⟨.ok value, _, state.run.limiter.ticks, .inl ⟨other, ⟨otherNumeral, inside, sameTree⟩, ?_⟩,
        computed.constant? _, asked, rfl⟩
      rw [isValue]
      rfl
  | none =>
      rcases node _ (computed.constant? (expression.render {})) with
        ⟨answer, caches, ticks, isAnswer, stillComputed, agrees, ended⟩
      have agreesLonger := (agrees.weaken (Nat.le_succ _)).trans asked
      simp only [ended]
      cases answer with
      | error stop => exact ⟨.error stop, caches, ticks, isAnswer, stillComputed, agreesLonger, rfl⟩
      | ok value =>
          rcases isAnswer with ⟨other, like, isValue⟩ | ⟨_, _, _, impossible⟩
          · have otherComputed := Expr.eq_ok_of_mapError isValue.symm
            exact ⟨.ok value, caches.storeConstant (expression.render {}) value, ticks,
              .inl ⟨other, like, isValue⟩,
              stillComputed.storeConstant like.isNumeral like.inside otherComputed
                (like.sameText isNumeral),
              agreesLonger.storeConstant (Nat.lt_succ_self _) value, rfl⟩
          · cases impossible

theorem operandValue_literal (engine : Engine) (value : Value)
    (passed : Eval.check environment state = .ok () state) :
    engine.operandValue (.literal value) environment state = .ok value state := by
  simp only [operandValue, Running.run_bind, passed, Running.run_pure]

theorem operandValue_eq_constantValue (engine : Engine) (isConstant : expression.isConstant = true)
    (passed : Eval.check environment state = .ok () state) :
    engine.operandValue expression environment state =
      engine.constantValue expression environment state := by
  cases expression with
  | unary | binary => simp only [operandValue, Running.run_bind, passed, isConstant, if_true]
  | _ => cases isConstant

theorem operandValue_of_check_error (engine : Engine) {stop : Interruption}
    (refused : Eval.check environment state = .error stop state) :
    engine.operandValue expression environment state = .error stop state := by
  simp only [operandValue, Running.run_bind, refused]

theorem within_operand (levels : Nat) (expression : Expr) :
    (within (levels + 1)).operand expression = (within levels).operandValue expression :=
  rfl

theorem apply_of_isNumeral {operator : BinaryOperator} {left right : Expr}
    (isNumeral : (Expr.binary operator left right).isNumeral = true) (heap : Heap)
    (leftValue rightValue : Value) :
    operator.apply heap leftValue rightValue = operator.apply {} leftValue rightValue := by
  cases operator with
  | add | subtract | multiply | divide => rfl
  | _ => cases isNumeral

theorem operand_isAnswered
    (each : ∀ (levels : Nat) (state : State), state.caches.AreComputed numbers →
      expression.IsAnswered numbers (state.run.limiter.Allows expression.nesting levels)
        ((expression.render {}).length + 1) state
        ((within levels).operandValue expression environment state))
    (levels : Nat) (state : State) (computed : state.caches.AreComputed numbers) :
    expression.IsAnswered numbers (state.run.limiter.Allows (expression.nesting + 1) levels)
      ((expression.render {}).length + 1) state
      ((within levels).operand expression environment state) := by
  cases levels with
  | zero =>
      exact Expr.isAnswered_of_isFinal computed (fun allows => Nat.not_succ_le_zero _ allows.1) rfl
        state.run.limiter.ticks
  | succ levels =>
      rw [within_operand]
      exact (each levels state computed).weaken
        (fun allows => ⟨Nat.le_of_succ_le_succ allows.1, allows.2⟩) (Nat.le_refl _)

theorem nodeValue_negate_isAnswered {operand : Expr} {levels : Nat}
    (each : ∀ state : State, state.caches.AreComputed numbers →
      operand.IsAnswered numbers (state.run.limiter.Allows (operand.nesting + 1) levels)
        ((operand.render {}).length + 1) state
        ((within levels).operand operand environment state))
    (computed : state.caches.AreComputed numbers) :
    (Expr.unary .negate operand).IsAnswered numbers
      (state.run.limiter.Allows (Expr.unary .negate operand).nesting levels)
      ((Expr.unary .negate operand).render {}).length state
      ((within levels).nodeValue (.unary .negate operand) environment state) := by
  rcases @Eval.tick_cases environment state with ticked | ⟨misfits, stop, isFinal, ticked⟩
  · rcases each (state.withTicks (state.run.limiter.ticks + 1)) computed with
      ⟨answer, caches, ticks, isAnswer, stillComputed, agrees, ended⟩
    refine ⟨answer.map UnaryOperator.negate.apply, caches, ticks, isAnswer.negate, stillComputed,
      agrees.weaken (Expr.length_render_operand operand), ?_⟩
    simp only [nodeValue, Running.run_bind, ticked, ended]
    cases answer <;> rfl
  · simp only [nodeValue, Running.run_bind, ticked]
    exact Expr.isAnswered_of_isFinal computed (misfits _ _) isFinal _

theorem nodeValue_binary_isAnswered {operator : BinaryOperator} {left right : Expr} {levels : Nat}
    (isNumeral : (Expr.binary operator left right).isNumeral = true)
    (inside : ∀ number ∈ right.numbers, numbers number)
    (inLeft : ∀ state : State, state.caches.AreComputed numbers →
      left.IsAnswered numbers (state.run.limiter.Allows (left.nesting + 1) levels)
        ((left.render {}).length + 1) state
        ((within levels).operand left environment state))
    (inRight : ∀ state : State, state.caches.AreComputed numbers →
      right.IsAnswered numbers (state.run.limiter.Allows (right.nesting + 1) levels)
        ((right.render {}).length + 1) state
        ((within levels).operand right environment state))
    (computed : state.caches.AreComputed numbers) :
    (Expr.binary operator left right).IsAnswered numbers
      (state.run.limiter.Allows (Expr.binary operator left right).nesting levels)
      ((Expr.binary operator left right).render {}).length state
      ((within levels).nodeValue (.binary operator left right) environment state) := by
  have lengths := Expr.length_render_operands operator left right
  have leftAllowed (allows : state.run.limiter.Allows (max left.nesting right.nesting + 1) levels) :
      state.run.limiter.Allows (left.nesting + 1) levels :=
    ⟨Nat.le_trans (Nat.succ_le_succ (Nat.le_max_left _ _)) allows.1, allows.2⟩
  have rightAllowed (allows : state.run.limiter.Allows (max left.nesting right.nesting + 1) levels) :
      state.run.limiter.Allows (right.nesting + 1) levels :=
    ⟨Nat.le_trans (Nat.succ_le_succ (Nat.le_max_right _ _)) allows.1, allows.2⟩
  rcases @Eval.tick_cases environment state with ticked | ⟨misfits, stop, isFinal, ticked⟩
  · rcases inLeft (state.withTicks (state.run.limiter.ticks + 1)) computed with
      ⟨leftAnswer, between, leftTicks, leftIsAnswer, betweenComputed, leftAgrees, leftEnded⟩
    have betweenAgrees := leftAgrees.weaken lengths.1
    simp only [nodeValue, Running.run_bind, ticked, leftEnded]
    cases leftAnswer with
    | error stop =>
        exact ⟨.error stop, between, leftTicks,
          (leftIsAnswer.weaken leftAllowed).interruptedLeft isNumeral inside, betweenComputed,
          betweenAgrees, rfl⟩
    | ok leftValue =>
        rcases inRight { state.withTicks (state.run.limiter.ticks + 1) with
            caches := between, run.limiter.ticks := leftTicks } betweenComputed with
          ⟨rightAnswer, caches, ticks, rightIsAnswer, stillComputed, rightAgrees, rightEnded⟩
        have agrees := (rightAgrees.weaken lengths.2).trans betweenAgrees
        refine ⟨_, caches, ticks,
          .binary isNumeral (leftIsAnswer.weaken leftAllowed) (rightIsAnswer.weaken rightAllowed),
          stillComputed, agrees, ?_⟩
        simp only [Eval.answer, rightEnded]
        cases rightAnswer with
        | error stop => rfl
        | ok rightValue =>
            simp only [Running.run_get, apply_of_isNumeral isNumeral, Except.bind]
            cases operator.apply {} leftValue rightValue <;> rfl
  · simp only [nodeValue, Running.run_bind, ticked]
    exact Expr.isAnswered_of_isFinal computed (misfits _ _) isFinal _

theorem operandValue_isAnswered_of_node (isConstant : expression.isConstant = true)
    (levels : Nat) (state : State) (computed : state.caches.AreComputed numbers)
    (node : ∀ state : State, state.caches.AreComputed numbers →
      expression.IsAnswered numbers (state.run.limiter.Allows expression.nesting levels)
        (expression.render {}).length state
        ((within levels).nodeValue expression environment state)) :
    expression.IsAnswered numbers (state.run.limiter.Allows expression.nesting levels)
      ((expression.render {}).length + 1) state
      ((within levels).operandValue expression environment state) := by
  rcases @Eval.check_cases environment state with passed | ⟨misfits, stop, isFinal, refused⟩
  · rw [operandValue_eq_constantValue _ isConstant passed]
    exact constantValue_isAnswered_of_node (Expr.isNumeral_of_isConstant isConstant) computed
      fun caches => node { state with caches }
  · rw [operandValue_of_check_error _ refused]
    exact Expr.isAnswered_of_isFinal computed (misfits _ _) isFinal state.run.limiter.ticks

theorem operandValue_isAnswered (isNumeral : expression.isNumeral = true)
    (inside : ∀ number ∈ expression.numbers, numbers number) (levels : Nat) (state : State)
    (computed : state.caches.AreComputed numbers) :
    expression.IsAnswered numbers (state.run.limiter.Allows expression.nesting levels)
      ((expression.render {}).length + 1) state
      ((within levels).operandValue expression environment state) := by
  induction expression, isNumeral using Expr.induction_of_isNumeral generalizing levels state with
  | number value isNumeral =>
      rcases @Eval.check_cases environment state with passed | ⟨misfits, stop, isFinal, refused⟩
      · rw [operandValue_literal _ _ passed]
        exact ⟨.ok value, state.caches, state.run.limiter.ticks,
          .inl ⟨.literal value, .refl isNumeral inside, rfl⟩, computed, .refl _, rfl⟩
      · rw [operandValue_of_check_error _ refused]
        exact Expr.isAnswered_of_isFinal computed (misfits _ _) isFinal state.run.limiter.ticks
  | negation operand isNumeral induction =>
      apply operandValue_isAnswered_of_node (by exact isNumeral) _ _ computed
      exact fun state => nodeValue_negate_isAnswered
        (operand_isAnswered (induction inside) levels)
  | operation operator left right isNumeral inLeft inRight =>
      have insideLeft : ∀ number ∈ left.numbers, numbers number :=
        fun number member => inside number (List.mem_append_left _ member)
      have insideRight : ∀ number ∈ right.numbers, numbers number :=
        fun number member => inside number (List.mem_append_right _ member)
      apply operandValue_isAnswered_of_node (by exact isNumeral) _ _ computed
      exact fun state => nodeValue_binary_isAnswered isNumeral insideRight
        (operand_isAnswered (inLeft insideLeft) levels)
        (operand_isAnswered (inRight insideRight) levels)

/-- The node of a constant expression remembers nothing for the expression itself. -/
theorem nodeValue_isAnswered (isConstant : expression.isConstant = true)
    (inside : ∀ number ∈ expression.numbers, numbers number) (levels : Nat) (state : State)
    (computed : state.caches.AreComputed numbers) :
    expression.IsAnswered numbers (state.run.limiter.Allows expression.nesting levels)
      (expression.render {}).length state
      ((within levels).nodeValue expression environment state) := by
  cases expression with
  | unary operator operand =>
      cases operator with
      | negate =>
          have isNumeral : operand.isNumeral = true := isConstant
          exact nodeValue_negate_isAnswered
            (operand_isAnswered (operandValue_isAnswered isNumeral inside) levels) computed
      | complement => cases isConstant
  | binary operator left right =>
      have operands := Expr.isNumeral_operands isConstant
      have insideLeft : ∀ number ∈ left.numbers, numbers number :=
        fun number member => inside number (List.mem_append_left _ member)
      have insideRight : ∀ number ∈ right.numbers, numbers number :=
        fun number member => inside number (List.mem_append_right _ member)
      exact nodeValue_binary_isAnswered isConstant insideRight
        (operand_isAnswered (operandValue_isAnswered operands.1 insideLeft) levels)
        (operand_isAnswered (operandValue_isAnswered operands.2 insideRight) levels) computed
  | _ => cases isConstant

theorem constantValue_isAnswered (isConstant : expression.isConstant = true)
    (inside : ∀ number ∈ expression.numbers, numbers number) (levels : Nat) (state : State)
    (computed : state.caches.AreComputed numbers) :
    expression.IsAnswered numbers (state.run.limiter.Allows expression.nesting levels)
      ((expression.render {}).length + 1) state
      ((within levels).constantValue expression environment state) :=
  constantValue_isAnswered_of_node (Expr.isNumeral_of_isConstant isConstant) computed fun caches =>
    nodeValue_isAnswered isConstant inside levels { state with caches }

end Engine

end MacroSandbox
