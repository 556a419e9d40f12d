import MacroSandbox.Proofs.ConstantValues

/-! Whether it makes a difference that values of constant expressions are remembered: it makes none
if the numbers in question are told apart by their texts. -/

namespace MacroSandbox

/-! ## Numbers that are told apart -/

/-- Numbers with different texts, where a sign in front of the text of a number negates it. -/
structure Value.AreToldApart (numbers : Value → Prop) : Prop where
  equal : ∀ left right, numbers left → numbers right → left.numberText = right.numberText →
    left = right
  negated : ∀ left right, numbers left → numbers right →
    left.numberText = '-' :: right.numberText → left = UnaryOperator.negate.apply right

namespace Expr

variable {numbers : Value → Prop}

theorem computed_eq_of_negation {number : Value} {operand : Expr}
    (apart : Value.AreToldApart numbers) (isNumeral : operand.isNumeral = true)
    (inside : numbers number) (operandInside : ∀ other ∈ operand.numbers, numbers other)
    (same : (literal number).tree = (unary .negate operand).tree) :
    (literal number).computed = (unary .negate operand).computed := by
  simp only [tree, OperatorTree.ofNumber] at same
  split at same
  · rename_i digits signed
    injection same with sameOperand
    cases operand with
    | literal other =>
        have text : other.numberText = digits := by
          rw [← OperatorTree.text_ofNumber other.numberText]
          exact congrArg OperatorTree.text sameOperand.symm
        have negates := apart.negated number other inside
          (operandInside other (List.mem_singleton_self other)) (by rw [signed, text])
        rw [negates]
        rfl
    | unary | binary => cases sameOperand
    | _ => cases isNumeral
  · cases same

theorem computed_eq_of_tree_eq {left right : Expr} (apart : Value.AreToldApart numbers)
    (isNumeral : left.isNumeral = true) (otherIsNumeral : right.isNumeral = true)
    (inside : ∀ number ∈ left.numbers, numbers number)
    (otherInside : ∀ number ∈ right.numbers, numbers number) (same : left.tree = right.tree) :
    left.computed = right.computed := by
  induction left, isNumeral using induction_of_isNumeral generalizing right with
  | number value isNumeral =>
      have numberInside := inside value (List.mem_singleton_self value)
      cases right with
      | literal other =>
          have sameText : value.numberText = other.numberText := by
            rw [← OperatorTree.text_ofNumber value.numberText,
              ← OperatorTree.text_ofNumber other.numberText]
            exact congrArg OperatorTree.text same
          rw [apart.equal value other numberInside
            (otherInside other (List.mem_singleton_self other)) sameText]
      | unary operator operand =>
          cases operator with
          | negate => exact computed_eq_of_negation apart otherIsNumeral numberInside otherInside same
          | complement => cases otherIsNumeral
      | binary operator left right =>
          have noOperation := OperatorTree.isOperation_ofNumber value.numberText
          rw [show OperatorTree.ofNumber value.numberText = _ from same] at noOperation
          cases noOperation
      | _ => cases otherIsNumeral
  | negation operand isNumeral induction =>
      cases right with
      | literal other =>
          exact (computed_eq_of_negation apart isNumeral
            (otherInside other (List.mem_singleton_self other)) inside same.symm).symm
      | unary operator otherOperand =>
          cases operator with
          | negate =>
              injection same with sameOperand
              have sameValue := @induction otherOperand otherIsNumeral inside otherInside sameOperand
              rw [computed, computed, sameValue]
          | complement => cases otherIsNumeral
      | binary => cases same
      | _ => cases otherIsNumeral
  | operation operator first second isNumeral inFirst inSecond =>
      cases right with
      | binary otherOperator otherFirst otherSecond =>
          injection same with sameOperator sameFirst sameSecond
          have operands := isNumeral_operands otherIsNumeral
          have firstSame := inFirst operands.1
            (fun number member => inside number (List.mem_append_left _ member))
            (fun number member => otherInside number (List.mem_append_left _ member)) sameFirst
          have secondSame := inSecond operands.2
            (fun number member => inside number (List.mem_append_right _ member))
            (fun number member => otherInside number (List.mem_append_right _ member)) sameSecond
          rw [computed, computed, sameOperator, firstSame, secondSame]
      | literal other =>
          have noOperation := OperatorTree.isOperation_ofNumber other.numberText
          rw [show OperatorTree.ofNumber other.numberText = _ from same.symm] at noOperation
          cases noOperation
      | unary => cases same
      | _ => cases otherIsNumeral

end Expr

theorem Int.eq_neg_of_toString {left right : Int}
    (same : (toString left).toList = '-' :: (toString right).toList) : left = -right := by
  have unsigned (magnitude : Nat) {rest : List Char} : Nat.toDigits 10 magnitude ≠ '-' :: rest :=
    fun signed => (Nat.isAtom_toDigits magnitude).unsigned (signed ▸ rfl)
  rcases Int.lt_or_le left 0 with negative | positive
  · rw [toString_eq_of_neg negative, String.toList_ofList, List.cons.injEq] at same
    rcases Int.lt_or_le right 0 with otherNegative | otherPositive
    · rw [toString_eq_of_neg otherNegative, String.toList_ofList] at same
      exact absurd same.2 (unsigned _)
    · rw [toString_eq_of_nonneg otherPositive, String.toList_ofList] at same
      have magnitudes : left.natAbs = right.natAbs :=
        Nat.repr_inj.1 (congrArg String.ofList same.2)
      omega
  · rw [toString_eq_of_nonneg positive, String.toList_ofList] at same
    exact absurd same (unsigned _)

theorem Value.integers_areToldApart :
    Value.AreToldApart fun value => ∃ number, value = .integer number := by
  refine ⟨?_, ?_⟩
  · rintro _ _ ⟨left, rfl⟩ ⟨right, rfl⟩ same
    rw [eq_of_numberText_eq same]
  · rintro _ _ ⟨left, rfl⟩ ⟨right, rfl⟩ same
    have negated : left.toInt = -right.toInt := Int.eq_neg_of_toString same
    have sameInteger : left = -right := by
      rw [← Int64.toInt_inj, Int64.toInt_neg, ← negated]
      exact left.toInt_bmod.symm
    rw [sameInteger]
    rfl

/-! ## Transparency -/

/-- What is remembered after constant expressions of certain numbers were evaluated, in any states
that shared it, and anything was done that remembers no value. -/
inductive Caches.Remembers (numbers : Value → Prop) : Caches → Prop
  | nothing : Remembers numbers {}
  | evaluated {environment : Environment} {state : State} {expression : Expr}
      (earlier : Remembers numbers state.caches) (isConstant : expression.isConstant = true)
      (inside : ∀ number ∈ expression.numbers, numbers number) :
      Remembers numbers ((Eval.operand expression).after environment state).caches
  | otherwise {caches later : Caches} (earlier : Remembers numbers caches)
      (same : later.constants = caches.constants) : Remembers numbers later

theorem Eval.operand_eq (expression : Expr) :
    Eval.operand expression = (Engine.within Engine.maxNesting).operandValue expression :=
  rfl

theorem Caches.Remembers.areComputed {numbers : Value → Prop} {caches : Caches}
    (remembers : caches.Remembers numbers) : caches.AreComputed numbers := by
  induction remembers with
  | nothing => exact areComputed_empty
  | @evaluated environment state expression _ isConstant inside induction =>
      rcases @Engine.operandValue_isAnswered numbers environment expression
        (Expr.isNumeral_of_isConstant isConstant) inside Engine.maxNesting state induction with
        ⟨answer, caches, ticks, _, computed, _, ended⟩
      rw [Eval.after, Eval.operand_eq, ended]
      cases answer <;> exact computed
  | otherwise _ same induction =>
      unfold AreComputed
      rw [same]
      exact induction

theorem Limiter.allows_of_check {limiter : Limiter} {needed levels : Nat}
    (passed : limiter.check = .ok ()) (nests : needed ≤ levels) (untimed : limiter.deadline = none) :
    limiter.Allows needed levels := by
  unfold check at passed
  split at passed
  · cases passed
  · exact ⟨nests, Nat.not_lt.1 ‹_›, untimed⟩

/-- Where numbers are told apart, a constant expression has its own value, unless the deadline ends
its evaluation. -/
theorem Eval.outcome_operand {numbers : Value → Prop} {environment : Environment} {state : State}
    {expression : Expr} (apart : Value.AreToldApart numbers)
    (computed : state.caches.AreComputed numbers) (isConstant : expression.isConstant = true)
    (inside : ∀ number ∈ expression.numbers, numbers number)
    (nests : expression.nesting ≤ Engine.maxNesting) :
    ((Eval.operand expression).outcome environment state =
        match state.run.limiter.check with
        | .ok () => expression.computed.mapError .fault
        | .error fault => .error (.fault fault)) ∨
      state.run.limiter.deadline.isSome = true ∧ ∃ stop : Interruption, stop.isFinal = true ∧
        (Eval.operand expression).outcome environment state = .error stop := by
  have isNumeral := Expr.isNumeral_of_isConstant isConstant
  rw [outcome, operand_eq]
  cases passed : state.run.limiter.check with
  | error fault =>
      have refused : Eval.check environment state = .error (.fault fault) state := by
        simp only [check, passed]
      rw [Engine.operandValue_of_check_error _ refused]
      exact .inl rfl
  | ok _ =>
      rcases @Engine.operandValue_isAnswered numbers environment expression isNumeral inside
        Engine.maxNesting state computed with ⟨answer, caches, ticks, isAnswer, _, _, ended⟩
      rw [ended]
      rcases isAnswer with ⟨other, like, rfl⟩ | ⟨misfits, stop, isFinal, rfl⟩
      · rw [Expr.computed_eq_of_tree_eq apart like.isNumeral isNumeral like.inside inside
          like.sameTree]
        left
        cases expression.computed <;> rfl
      · refine .inr ⟨Option.isSome_iff_ne_none.2 fun untimed => ?_, stop, isFinal, rfl⟩
        exact misfits (Limiter.allows_of_check passed nests untimed)

/-- Where the numbers of all constant expressions are told apart, what is remembered makes no
difference to the value of any of them. What it saves is time: with a deadline, one of the two
evaluations may be ended by it. -/
theorem Eval.operand_remembering {numbers : Value → Prop} {environment : Environment}
    {state : State} {expression : Expr} (apart : Value.AreToldApart numbers)
    (remembers : state.caches.Remembers numbers) (isConstant : expression.isConstant = true)
    (inside : ∀ number ∈ expression.numbers, numbers number)
    (nests : expression.nesting ≤ Engine.maxNesting) :
    let remembering := (Eval.operand expression).outcome environment state
    let forgetting := (Eval.operand expression).outcome environment { state with caches := {} }
    remembering = forgetting ∨
      state.run.limiter.deadline.isSome = true ∧ ∃ stop : Interruption, stop.isFinal = true ∧
        (remembering = .error stop ∨ forgetting = .error stop) := by
  intro remembering forgetting
  have forgotten : ({ state with caches := {} } : State).caches.AreComputed numbers :=
    Caches.areComputed_empty
  rcases outcome_operand apart remembers.areComputed isConstant inside nests with
    own | ⟨timed, stop, isFinal, stopped⟩
  · rcases outcome_operand apart forgotten isConstant inside nests with
      ownToo | ⟨timed, stop, isFinal, stopped⟩
    · exact .inl (own.trans ownToo.symm)
    · exact .inr ⟨timed, stop, isFinal, .inr stopped⟩
  · exact .inr ⟨timed, stop, isFinal, .inl stopped⟩

/-- The product of a sum that is remembered and a negative number. -/
theorem Eval.operand_remembering_sum :
    let sum : Expr := .binary .add (.literal (.integer 1)) (.literal (.integer 2))
    let product : Expr := .binary .multiply sum (.literal (.integer (-3)))
    let start := State.start {} none {} {}
    (Eval.operand product).outcome {} ((Eval.operand sum).after {} start) =
      (Eval.operand product).outcome {} { (Eval.operand sum).after {} start with caches := {} } := by
  intro sum product start
  have remembers : ((Eval.operand sum).after {} start).caches.Remembers
      fun value => ∃ number, value = .integer number :=
    .evaluated .nothing rfl (by simp [sum, Expr.numbers])
  have inside : ∀ value ∈ product.numbers, ∃ number, value = Value.integer number := by
    simp [product, sum, Expr.numbers]
  refine (Eval.operand_remembering Value.integers_areToldApart remembers rfl inside
    (by decide +kernel)).resolve_right fun timed => ?_
  have untimed : ((Eval.operand sum).after {} start).run.limiter.deadline = none := by
    subst sum start
    decide +kernel
  rw [untimed] at timed
  cases timed.1

/-- An integer and a floating-point number with the same text are not told apart: the sum of two such
floating-point numbers is answered with the sum of the integers. -/
theorem Eval.operand_confuses_sums :
    let integers : Expr := .binary .add (.literal (.integer 1)) (.literal (.integer 2))
    let floats : Expr := .binary .add (.literal (.float (.ofBits 0x3FF0000000000000)))
      (.literal (.float (.ofBits 0x4000000000000000)))
    let start := State.start {} none {} {}
    (Eval.operand floats).outcome {} ((Eval.operand integers).after {} start) = .ok (.integer 3) ∧
      (Eval.operand floats).outcome {} start = .ok (.float (.ofBits 0x4008000000000000)) :=
  ⟨rfl, rfl⟩

end MacroSandbox
