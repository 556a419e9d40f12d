import MacroSandbox.Loop.Compiler
import MacroSandbox.Proofs.ConstantCache
import MacroSandbox.Proofs.ElementLoops
import MacroSandbox.Proofs.FlatCopies
import MacroSandbox.Proofs.GrowingArrays
import MacroSandbox.Proofs.Running

/-! The machine follows the interpreter through a loop.

What is said here of loops does not depend on how their variables and lists are held: whoever says
when a state of the interpreter and a state of the machine are in step, and shows that reading and
writing keeps them in step, gets that the two sides end every loop alike and in step. -/

namespace MacroSandbox

/-! ## Values without a place -/

theorem Heap.text_congr {value : Value} (scalar : value.isReference = false) (heap other : Heap) :
    heap.text value = other.text value := by
  cases value <;> first | rfl | cases scalar

theorem Heap.isTruthy_congr {value : Value} (scalar : value.isReference = false)
    (heap other : Heap) : heap.isTruthy value = other.isTruthy value := by
  cases value <;> first | rfl | cases scalar

theorem compareValues_congr {left right : Value} (leftScalar : left.isReference = false)
    (rightScalar : right.isReference = false) (heap other : Heap) :
    compareValues heap left right = compareValues other left right := by
  simp only [compareValues, Heap.text_congr leftScalar heap other,
    Heap.text_congr rightScalar heap other]

/-- What an operator computes from values that are no references does not depend on any place. -/
theorem BinaryOperator.apply_congr (operator : BinaryOperator) {left right : Value}
    (leftScalar : left.isReference = false) (rightScalar : right.isReference = false)
    (heap other : Heap) : operator.apply heap left right = operator.apply other left right := by
  cases operator <;>
    simp only [BinaryOperator.apply, compareValues_congr leftScalar rightScalar heap other,
      Heap.text_congr leftScalar heap other, Heap.text_congr rightScalar heap other]

theorem indexValue_list {heap : Heap} {place : Nat} {index value : Value}
    (found : indexValue heap (.list place) [index] = .ok value) :
    ∃ position, elementIndex (heap.list place) index = .ok position ∧
      position < (heap.list place).size ∧ value = (heap.list place).getD position .null := by
  simp only [indexValue] at found
  cases isInside : elementIndex (heap.list place) index with
  | error fault => simp [isInside] at found
  | ok position =>
      simp only [isInside, Except.ok.injEq] at found
      exact ⟨position, rfl, (elementIndex_eq_ok_iff.1 isInside).2, found.symm⟩

theorem growingSlot_of_elementSlot {heap other : Heap} {place copy : Nat} {index : Value}
    {slot : Slot} (few : (heap.list place).size ≤ maxAllocation)
    (found : elementSlot heap (.list place) [index] = .ok slot) :
    ∃ position, position < (heap.list place).size ∧ slot = .item place position ∧
      growingSlot other (.list copy) [index] = .ok (.item copy position) := by
  rw [elementSlot] at found
  cases isInside : elementIndex (heap.list place) index with
  | error fault =>
      rw [isInside] at found
      cases found
  | ok position =>
      rw [isInside] at found
      cases found
      obtain ⟨denotes, inside⟩ := elementIndex_eq_ok_iff.1 isInside
      exact ⟨position, inside, rfl, growingSlot_item denotes (Nat.lt_of_lt_of_le inside few)⟩

/-! ## Two sides -/

def State.recalling (state : State) (caches : Caches) (ticks : UInt64) : State :=
  { state with caches, run.limiter.ticks := ticks }

/-- What is remembered of constant expressions was computed from the numbers of the loop, if it has
any. -/
def LoopTerms.AreRemembered (terms : LoopTerms) (caches : Caches) : Prop :=
  ∀ number, terms.constants number = true → caches.AreComputed (terms.constants · = true)

/-- The interpretation of a loop and a run of its program: what stays fixed on either side, what the
loop is made of, and when two states are in step, with values for the names that are bound. -/
structure LockStep where
  environment : Environment
  setup : Machine.Setup
  isTimed : Bool
  terms : LoopTerms
  InStep : (bound : List String) → State → Machine.State → Prop

namespace LockStep

structure HoldsAlike (pair : LockStep) (state : State) (machine : Machine.State) (name : String)
    (place copy : Nat) : Prop where
  bound : (state.scope pair.environment).get? name = some (.list place)
  loads : Machine.load (Text.asciiLower name) pair.setup machine = .ok (.list copy) machine
  items : machine.heap.list copy = state.heap.list place
  areScalar : ∀ value ∈ state.heap.list place, value.isReference = false

structure IsSound (pair : LockStep) : Prop where
  interprets : pair.environment.policy.compileLoops = false
  noText : pair.environment.text = {}
  notPending : ∀ {bound state machine}, pair.InStep bound state machine →
    (state.frame.errorState == .pending) = false
  limits : ∀ {bound state machine}, pair.InStep bound state machine →
    machine.limiter.depth ≤ machine.limiter.maxDepth ∧ machine.limiter.deadline.isSome = pair.isTimed
  weaken : ∀ {bound fewer state machine}, (∀ name ∈ fewer, name ∈ bound) →
    pair.InStep bound state machine → pair.InStep fewer state machine
  apart : Value.AreToldApart (pair.terms.constants · = true)
  remembers : ∀ {bound state machine}, pair.InStep bound state machine →
    pair.terms.AreRemembered state.caches
  recalled : ∀ {bound state machine}, pair.InStep bound state machine → ∀ caches ticks,
    pair.terms.AreRemembered caches → pair.InStep bound (state.recalling caches ticks) machine
  counted : ∀ {bound state machine}, pair.InStep bound state machine → ∀ iterations ticks,
    pair.InStep bound state { machine with iterations, limiter.ticks := ticks }
  load : ∀ {bound state machine name}, pair.InStep bound state machine →
    Text.asciiLower name ∈ bound → ∃ value : Value, value.isReference = false ∧
      (state.scope pair.environment).get? name = some value ∧
      Machine.load (Text.asciiLower name) pair.setup machine = .ok value machine
  store : ∀ {bound state machine name value}, pair.InStep bound state machine →
    Text.asciiLower name ∈ pair.terms.assigned → value.isReference = false →
    ∃ following, Machine.store (Text.asciiLower name) value pair.setup machine =
        .ok () following ∧
      pair.InStep (Text.asciiLower name :: bound) (state.set pair.environment name value)
        following ∧
      following.iterations = machine.iterations
  element : ∀ {bound state machine name}, pair.InStep bound state machine →
    Text.asciiLower name ∈ pair.terms.lists →
    ∃ place copy, pair.HoldsAlike state machine name place copy
  change : ∀ {bound state machine name}, pair.InStep bound state machine →
    Text.asciiLower name ∈ pair.terms.changed →
    ∃ place copy, pair.HoldsAlike state machine name place copy ∧
      (state.heap.list place).size ≤ maxAllocation ∧
      ∀ position value, position < (state.heap.list place).size → value.isReference = false →
        pair.InStep bound { state with heap := state.heap.write (.item place position) value }
          { machine with heap := machine.heap.write (.item copy position) value }

/-- Where the statements of a loop stand when they are lowered: outside of functions, with all names
known. -/
structure Knows (pair : LockStep) (context : LoweringContext) (bound : List String) : Prop where
  outside : context.current = none
  areVariables : ∀ name ∈ bound, context.isVariable name = true
  areAssigned : ∀ name ∈ pair.terms.assigned, context.isVariable name = true
  areIndexable : ∀ name ∈ pair.terms.lists, context.isIndexable name = true
  areChanged : ∀ name ∈ pair.terms.changed, context.isIndexable name = true

variable {pair : LockStep} {bound : List String} {state after : State} {machine : Machine.State}
  {context : LoweringContext}

theorem Knows.gain {gained : List String} (knows : pair.Knows context bound)
    (assigned : ∀ name ∈ gained, name ∈ pair.terms.assigned) :
    pair.Knows context (gained ++ bound) :=
  { knows with
    areVariables := fun name member =>
      (List.mem_append.1 member).elim (fun isGained => knows.areAssigned name (assigned name isGained))
        (knows.areVariables name) }

theorem mem_assigned_of_mem_gains {statement : Statement} {terms : LoopTerms}
    (computes : statement.computesWith terms bound = true) {name : String}
    (gained : name ∈ statement.gains) : name ∈ terms.assigned := by
  cases statement
  case assign target value =>
    cases target
    case var variableName =>
      obtain rfl := List.mem_singleton.1 gained
      simp only [Statement.computesWith, Bool.and_eq_true, List.contains_iff_mem] at computes
      exact computes.1
    all_goals cases gained
  case forRange index start finish step body =>
    obtain rfl := List.mem_singleton.1 gained
    simp only [Statement.computesWith, Bool.and_eq_true, List.contains_iff_mem] at computes
    exact computes.1.1.1.1
  all_goals cases gained

theorem Knows.lowerName? (knows : pair.Knows context bound) {name : String}
    (isBound : Text.asciiLower name ∈ bound) {lowered : LoopExpr}
    (lowers : context.lowerName? name = some lowered) :
    Text.sameIgnoringCase name "err" = false ∧ lowered = .var (Text.asciiLower name) := by
  have known := knows.areVariables _ isBound
  unfold LoweringContext.lowerName? at lowers
  dsimp only at lowers
  split at lowers
  · cases lowers
  · rename_i isOther
    simp only [Bool.or_eq_true, not_or, beq_iff_eq] at isOther
    cases lowers
    exact ⟨beq_eq_false_iff_ne.2 isOther.1, rfl⟩

theorem Knows.lowerCall? (knows : pair.Knows context bound) {name : String}
    (isList : Text.asciiLower name ∈ pair.terms.lists) (arguments : List LoopExpr) :
    context.lowerCall? name arguments = some (.index (Text.asciiLower name) arguments) := by
  simp [LoweringContext.lowerCall?, knows.outside, knows.areIndexable _ isList]

end LockStep

/-! ## Limits -/

theorem Machine.tick_cases {setup : Machine.Setup} {machine : Machine.State}
    (within : machine.limiter.depth ≤ machine.limiter.maxDepth) :
    Machine.tick setup machine =
        .ok () { machine with limiter.ticks := machine.limiter.ticks + 1 } ∨
      machine.limiter.deadline.isSome = true ∧
        ∃ halt stopped, Machine.tick setup machine = .error (.halt halt) stopped := by
  unfold Machine.tick Limiter.tick
  dsimp only
  rw [if_neg (Nat.not_lt.2 within)]
  by_cases late : (machine.limiter.ticks + 1 &&& 0x3F == 0 &&
      { machine.limiter with ticks := machine.limiter.ticks + 1 }.expired) = true
  · rw [if_pos late]
    have met := (Bool.and_eq_true_iff.1 late).2
    cases timed : machine.limiter.deadline with
    | none => simp [Limiter.expired, timed] at met
    | some _ => exact .inr ⟨rfl, _, _, rfl⟩
  · rw [if_neg late]
    exact .inl rfl

namespace LockStep

variable {pair : LockStep} {bound : List String} {state : State} {machine : Machine.State}

/-- The machine may give up where it has counted so many iterations: they are too many, or there is
no time left. -/
def MayStop (pair : LockStep) (iterations : Nat) : Prop :=
  pair.setup.maxIterations < iterations ∨ pair.isTimed = true

theorem MayStop.mono {fewer iterations : Nat} (stops : pair.MayStop fewer)
    (atLeast : fewer ≤ iterations) : pair.MayStop iterations :=
  stops.imp_left fun many => Nat.lt_of_lt_of_le many atLeast

theorem IsSound.ticked (sound : pair.IsSound) (inStep : pair.InStep bound state machine)
    (ticks : UInt64) : pair.InStep bound (state.withTicks ticks) machine :=
  sound.recalled inStep state.caches ticks (sound.remembers inStep)

theorem IsSound.machineTick (sound : pair.IsSound) (inStep : pair.InStep bound state machine) :
    (∃ ticked, Machine.tick pair.setup machine = .ok () ticked ∧
      pair.InStep bound state ticked ∧ ticked.iterations = machine.iterations) ∨
    pair.MayStop machine.iterations ∧
      ∃ halt stopped, Machine.tick pair.setup machine = .error (.halt halt) stopped := by
  obtain ⟨within, late⟩ := sound.limits inStep
  rcases @Machine.tick_cases pair.setup machine within with ticks | ⟨noTime, stops⟩
  · exact .inl ⟨_, ticks, sound.counted inStep machine.iterations _, rfl⟩
  · exact .inr ⟨.inr (late.symm.trans noTime), stops⟩

theorem IsSound.countIteration (sound : pair.IsSound) (inStep : pair.InStep bound state machine) :
    (∃ counted, Machine.countIteration pair.setup machine = .ok () counted ∧
      pair.InStep bound state counted ∧ counted.iterations = machine.iterations + 1 ∧
      machine.iterations < pair.setup.maxIterations) ∨
    pair.MayStop (machine.iterations + 1) ∧
      ∃ halt stopped, Machine.countIteration pair.setup machine = .error (.halt halt) stopped := by
  simp only [Machine.countIteration, Running.run_bind, Running.run_modify, Running.run_read,
    Running.run_get]
  by_cases many : pair.setup.maxIterations < machine.iterations + 1
  · simp only [if_pos many]
    exact .inr ⟨.inl many, .runaway, _, rfl⟩
  · simp only [if_neg many]
    have counted := sound.counted inStep (machine.iterations + 1) machine.limiter.ticks
    rcases sound.machineTick counted with ⟨ticked, ticks, inStepTicked, same⟩ | stops
    · exact .inl ⟨ticked, ticks, inStepTicked, same, by omega⟩
    · exact .inr stops

end LockStep

/-! ## Operands -/

theorem Expr.exists_mem_numbers {expression : Expr} (isNumeral : expression.isNumeral = true) :
    ∃ number, number ∈ expression.numbers := by
  induction expression, isNumeral using induction_of_isNumeral with
  | number value => exact ⟨value, List.mem_singleton_self value⟩
  | negation _ _ induction => exact induction
  | operation _ _ _ _ inLeft _ => exact inLeft.imp fun _ => List.mem_append_left _

theorem Expr.constants_of_keepsTo {terms : LoopTerms} {expression : Expr}
    (keeps : expression.keepsTo terms = true) (isConstant : expression.isConstant = true) :
    ∀ number ∈ expression.numbers, terms.constants number = true := by
  simpa [keepsTo, isConstant] using keeps

theorem Value.isReference_of_isNumeric {value : Value} (isNumeric : value.isNumeric = true) :
    value.isReference = false := by
  cases value <;> first | rfl | cases isNumeric

theorem Expr.eq_element_of_computesWith {callee : Expr} {arguments : List Expr} {terms : LoopTerms}
    {bound : List String} (computes : (Expr.call callee arguments).computesWith terms bound = true) :
    ∃ name index, callee = .var name ∧ arguments = [index] := by
  unfold computesWith at computes
  split at computes
  all_goals first | cases computes | (rename_i same; cases same)
  exact ⟨_, _, rfl, rfl⟩

theorem Expr.cellArguments?_element (name : String) (index : Expr) :
    (Expr.call (.var name) [index]).cellArguments? = none := by
  simp only [cellArguments?, isChain, links?, reversedLinks?, Option.map_some,
    List.reverse_singleton, List.dropWhile]
  cases ({ name, arguments := some [index] } : Link).picksFrom ["sheets", "worksheets"] <;> rfl

namespace Engine

theorem atPath?_eq_none (path : String) : ObjectText.atPath? {} path = none := by
  have noText (name : String) : DocumentText.variableText? {} name = none := by
    simp [DocumentText.variableText?, NameMap.get?]
  unfold ObjectText.atPath?
  cases ObjectText.collection? path with
  | none => rfl
  | some collection =>
      cases ObjectText.argument? (Text.asciiLower (Text.trim path)).toList with
      | none => rfl
      | some identifier => simp [ObjectText.find?, noText]

/-- An operand that names no cell and no shape is not read from the document. -/
theorem documentOrNodeValue_eq {engine : Engine} {environment : Environment} {expression : Expr}
    {state : State} (noText : environment.text = {}) (noCell : expression.cellArguments? = none)
    (noMember : ∀ object name, expression ≠ .member object name) :
    engine.documentOrNodeValue expression environment state =
      engine.nodeValue expression environment state := by
  have noCell : engine.readCell? expression environment state = .ok none state := by
    unfold readCell?
    simp only [Running.run_bind, Running.run_read]
    cases environment.document with
    | none => rfl
    | some workbook => simp [noCell]
  have noShape : engine.readObjectText? expression environment state = .ok none state := by
    cases expression <;> first | rfl | exact absurd rfl (noMember _ _)
  simp only [documentOrNodeValue, Running.run_bind, noCell, noShape]
  cases engine.nodeValue expression environment state with
  | error interruption after => rfl
  | ok value after =>
      cases value <;> simp [noText, atPath?_eq_none]

theorem variableValue_eq {engine : Engine} {environment : Environment} {state : State}
    {name : String} {value : Value} (notError : Text.sameIgnoringCase name "err" = false)
    (bound : (state.scope environment).get? name = some value) :
    engine.variableValue name environment state = .ok value state := by
  simp [variableValue, notError, Eval.lookup?, Eval.scope, bound]

theorem callValue_eq {engine : Engine} {environment : Environment} {state : State}
    {expression : Expr} {name : String} {arguments : List Expr} {place : Nat}
    (bound : (state.scope environment).get? name = some (.list place)) :
    engine.callValue expression (.var name) arguments environment state =
      (do
        let indices ← engine.operands arguments
        Eval.lift (indexValue (← get).heap (.list place) indices) : Eval Value) environment state := by
  simp only [callValue, Running.run_bind, Eval.lookup?, Eval.scope, Running.run_get,
    Running.run_read, Running.run_pure, bound]
  rfl

theorem assign_element_eq {engine : Engine} {environment : Environment} {state : State}
    {name : String} {arguments : List Expr} {value : Value} {place : Nat}
    (notOverwrite : LoweringContext.isOverwrite name = false)
    (bound : (state.scope environment).get? name = some (.list place)) :
    engine.assign (.call (.var name) arguments) value environment state =
      (do
        let indices ← engine.operands arguments
        Eval.storeElement (.list place) indices value : Eval Unit) environment state := by
  unfold LoweringContext.isOverwrite at notOverwrite
  simp only [assign, notOverwrite, Bool.false_eq_true, if_false, Running.run_bind, Eval.lookup?,
    Eval.scope, Running.run_get, Running.run_read, Running.run_pure, bound]
  rfl

theorem exists_operandValue_of_operand {levels : Nat} {environment : Environment}
    {expression : Expr} {state after : State} {value : Value}
    (ran : (within levels).operand expression environment state = .ok value after) :
    ∃ fewer, (within fewer).operandValue expression environment state = .ok value after := by
  cases levels with
  | zero => cases ran
  | succ fewer => exact ⟨fewer, ran⟩

theorem exists_operandValue_of_operands {levels : Nat} {environment : Environment}
    {index : Expr} {state after : State} {values : List Value}
    (ran : (within levels).operands [index] environment state = .ok values after) :
    ∃ fewer value, values = [value] ∧
      (within fewer).operandValue index environment state = .ok value after := by
  simp only [operands] at ran
  obtain ⟨value, middle, found, ran⟩ := Running.ok_of_bind ran
  cases ran
  obtain ⟨fewer, found⟩ := exists_operandValue_of_operand found
  exact ⟨fewer, value, rfl, found⟩

theorem nodeValue_of_operandValue {engine : Engine} {environment : Environment} {expression : Expr}
    {state after : State} {value : Value} {terms : LoopTerms} {bound : List String}
    (noText : environment.text = {}) (computes : expression.computesWith terms bound = true)
    (notLiteral : ∀ value, expression ≠ .literal value)
    (notConstant : expression.isConstant = false)
    (ran : engine.operandValue expression environment state = .ok value after) :
    engine.nodeValue expression environment state = .ok value after := by
  unfold operandValue at ran
  obtain ⟨_, checked, checks, found⟩ := Running.ok_of_bind ran
  obtain rfl := Eval.eq_of_check checks
  clear ran
  cases expression with
  | literal value => exact absurd rfl (notLiteral value)
  | receiver | member => cases computes
  | var | unary | binary =>
      simp only [notConstant] at found
      exact (documentOrNodeValue_eq noText rfl (by simp)).symm.trans found
  | call callee arguments =>
      simp only [notConstant] at found
      refine (documentOrNodeValue_eq noText ?_ (by simp)).symm.trans found
      obtain ⟨name, index, rfl, rfl⟩ := Expr.eq_element_of_computesWith computes
      exact Expr.cellArguments?_element name index

end Engine

namespace LockStep

variable {pair : LockStep} {bound : List String} {state after : State} {machine : Machine.State}
  {context : LoweringContext}

/-- What the interpreter found for an operand: the machine finds the same, and nothing has changed
but the ticks of the limiter and what is remembered. -/
structure FindsSame (pair : LockStep) (state : State) (machine : Machine.State) (value : Value)
    (after : State) (lowered : LoopExpr) : Prop where
  scalar : value.isReference = false
  recalls : ∃ caches ticks, after = state.recalling caches ticks ∧ pair.terms.AreRemembered caches
  evaluate : ∀ calls, Machine.evaluate calls lowered pair.setup machine = .ok value machine

namespace FindsSame

variable {value : Value} {lowered : LoopExpr}

theorem inStep (same : pair.FindsSame state machine value after lowered) (sound : pair.IsSound)
    (inStep : pair.InStep bound state machine) : pair.InStep bound after machine := by
  obtain ⟨caches, ticks, rfl, remembered⟩ := same.recalls
  exact sound.recalled inStep caches ticks remembered

theorem of_withTicks {ticks : UInt64}
    (same : pair.FindsSame (state.withTicks ticks) machine value after lowered) :
    pair.FindsSame state machine value after lowered where
  scalar := same.scalar
  recalls := same.recalls
  evaluate := same.evaluate

theorem unary (same : pair.FindsSame state machine value after lowered)
    (operator : UnaryOperator) :
    pair.FindsSame state machine (operator.apply value) after (.unary operator lowered) where
  scalar := UnaryOperator.isReference_apply operator value
  recalls := same.recalls
  evaluate calls := by
    simp only [Machine.evaluate, Running.run_bind, same.evaluate, Running.run_pure]

theorem binary {left right : Value} {middle : State} {lowerLeft lowerRight : LoopExpr}
    {operator : BinaryOperator} (sameLeft : pair.FindsSame state machine left middle lowerLeft)
    (sameRight : pair.FindsSame middle machine right after lowerRight)
    (applied : operator.apply after.heap left right = .ok value) :
    pair.FindsSame state machine value after (.binary operator lowerLeft lowerRight) where
  scalar := BinaryOperator.isReference_of_apply applied
  recalls := by
    obtain ⟨_, _, rfl, _⟩ := sameLeft.recalls
    exact sameRight.recalls
  evaluate calls := by
    rw [operator.apply_congr sameLeft.scalar sameRight.scalar after.heap machine.heap] at applied
    simp only [Machine.evaluate, Running.run_bind, sameLeft.evaluate, sameRight.evaluate,
      Running.run_get, applied]
    rfl

end FindsSame

theorem HoldsAlike.indexValue {name : String} {place copy : Nat}
    (alike : pair.HoldsAlike state machine name place copy) {index value : Value}
    (found : MacroSandbox.indexValue state.heap (.list place) [index] = .ok value) :
    value.isReference = false ∧
      MacroSandbox.indexValue machine.heap (.list copy) [index] = .ok value := by
  obtain ⟨position, isInside, inside, rfl⟩ := indexValue_list found
  refine ⟨?_, ?_⟩
  · rw [Array.getD_eq_getD_getElem?, Array.getElem?_eq_getElem inside]
    exact alike.areScalar _ (Array.getElem_mem inside)
  · simp only [MacroSandbox.indexValue, alike.items, isInside]

theorem FindsSame.element {name : String} {place copy : Nat} {index value : Value}
    {lowerIndex : LoopExpr} (same : pair.FindsSame state machine index after lowerIndex)
    (alike : pair.HoldsAlike state machine name place copy)
    (found : MacroSandbox.indexValue after.heap (.list place) [index] = .ok value) :
    pair.FindsSame state machine value after (.index (Text.asciiLower name) [lowerIndex]) := by
  obtain ⟨caches, ticks, rfl, remembered⟩ := same.recalls
  obtain ⟨scalar, indexed⟩ := alike.indexValue found
  refine ⟨scalar, ⟨caches, ticks, rfl, remembered⟩, fun calls => ?_⟩
  simp only [Machine.evaluate, Machine.evaluateAll, Running.run_bind, same.evaluate,
    Running.run_pure, alike.loads, Running.run_get, indexed]
  rfl

theorem evaluate_of_computed (calls : Machine.Calls) {expression : Expr}
    (isNumeral : expression.isNumeral = true) {value : Value} {lowered : LoopExpr}
    (lowers : context.lowerExpr? expression = some lowered)
    (isValue : expression.computed = .ok value) :
    Machine.evaluate calls lowered pair.setup machine = .ok value machine := by
  induction expression, isNumeral using Expr.induction_of_isNumeral generalizing value lowered with
  | number number isNumeral =>
      obtain rfl : number = value := Except.ok.inj isValue
      -- A numeral is lowered to itself, whatever its kind.
      have isConstant : lowered = .constant number := by
        cases number <;> first
          | cases isNumeral; done
          | exact (Option.some.inj lowers).symm
      have scalar := Value.isReference_of_isNumeric (Expr.isNumeric_of_isNumeral isNumeral)
      subst isConstant
      simp only [Machine.evaluate, Heap.copy, Heap.build_contents scalar]
  | negation operand isNumeral induction =>
      simp only [LoweringContext.lowerExpr?, Option.map_eq_some_iff] at lowers
      obtain ⟨lowerOperand, lowers, rfl⟩ := lowers
      obtain ⟨held, outcome, rfl⟩ := Expr.computed_unary_eq_ok.1 isValue
      simp only [Machine.evaluate, Running.run_bind, induction lowers outcome, Running.run_pure]
  | operation operator left right isNumeral inLeft inRight =>
      rw [LoweringContext.lowerExpr?] at lowers
      split at lowers
      · rename_i lowerLeft lowerRight lowersLeft lowersRight
        cases lowers
        obtain ⟨first, second, leftOutcome, rightOutcome, computes⟩ :=
          Expr.computed_binary_eq_ok.1 isValue
        have applied : operator.apply machine.heap first second = .ok value := by
          rw [Engine.apply_of_isNumeral isNumeral]
          exact computes
        simp only [Machine.evaluate, Running.run_bind, inLeft lowersLeft leftOutcome,
          inRight lowersRight rightOutcome, Running.run_get, applied]
        rfl
      · cases lowers

/-- A constant expression is answered with its value, which the machine computes. What is remembered
does not get in the way, because the numbers are told apart. -/
theorem findsSame_constant (sound : pair.IsSound) {expression : Expr} {levels : Nat} {value : Value}
    {lowered : LoopExpr} (isConstant : expression.isConstant = true)
    (inside : ∀ number ∈ expression.numbers, pair.terms.constants number = true)
    (lowers : context.lowerExpr? expression = some lowered) (inStep : pair.InStep bound state machine)
    (ran : (Engine.within levels).operandValue expression pair.environment state =
      .ok value after) : pair.FindsSame state machine value after lowered := by
  have isNumeral := Expr.isNumeral_of_isConstant isConstant
  obtain ⟨number, member⟩ := Expr.exists_mem_numbers isNumeral
  have remembered := sound.remembers inStep number (inside number member)
  obtain ⟨answer, caches, ticks, isAnswer, stillComputed, _, ended⟩ :=
    Engine.operandValue_isAnswered isNumeral inside levels state remembered
  rw [ended] at ran
  cases answer with
  | error stop => cases ran
  | ok found =>
      cases ran
      rcases isAnswer with ⟨other, like, isValue⟩ | ⟨_, _, _, impossible⟩
      · have computed : expression.computed = .ok value := by
          rw [← Expr.computed_eq_of_tree_eq sound.apart like.isNumeral isNumeral like.inside inside
            like.sameTree]
          exact Expr.eq_ok_of_mapError isValue.symm
        exact
          { scalar := Value.isReference_of_isNumeric (Expr.isNumeric_of_computed isNumeral computed)
            recalls := ⟨caches, ticks, rfl, fun _ _ => stillComputed⟩
            evaluate := fun calls => evaluate_of_computed calls isNumeral lowers computed }
      · cases impossible

theorem findsSame_literal (sound : pair.IsSound) {literal value : Value} {levels : Nat}
    {lowered : LoopExpr} (scalar : literal.isReference = false)
    (lowers : context.lowerExpr? (.literal literal) = some lowered)
    (inStep : pair.InStep bound state machine)
    (ran : (Engine.within levels).operandValue (.literal literal) pair.environment state =
      .ok value after) : pair.FindsSame state machine value after lowered := by
  simp only [Engine.operandValue] at ran
  obtain ⟨_, checked, checks, found⟩ := Running.ok_of_bind ran
  obtain rfl := Eval.eq_of_check checks
  cases found
  have isConstant : lowered = .constant literal := by
    cases literal <;> simp_all [LoweringContext.lowerExpr?]
  subst isConstant
  refine ⟨scalar, ⟨_, _, rfl, sound.remembers inStep⟩, fun calls => ?_⟩
  simp only [Machine.evaluate, Heap.copy, Heap.build_contents scalar]

theorem findsSame_variable (sound : pair.IsSound) (knows : pair.Knows context bound)
    {name : String} {value : Value} {levels : Nat} {lowered : LoopExpr}
    (isBound : Text.asciiLower name ∈ bound)
    (lowers : context.lowerExpr? (.var name) = some lowered)
    (inStep : pair.InStep bound state machine)
    (ran : (Engine.within levels).nodeValue (.var name) pair.environment state =
      .ok value after) : pair.FindsSame state machine value after lowered := by
  obtain ⟨notError, rfl⟩ := knows.lowerName? isBound lowers
  have inStepTicked := sound.ticked inStep (state.run.limiter.ticks + 1)
  obtain ⟨held, scalar, holds, loads⟩ := sound.load inStepTicked isBound
  have found := Eval.ok_of_tick ran
  dsimp only at found
  rw [Engine.variableValue_eq notError holds] at found
  cases found
  exact ⟨scalar, ⟨_, _, rfl, sound.remembers inStep⟩,
    fun calls => by rw [Machine.evaluate, loads]⟩

/-- The machine evaluates an operand as the interpreter does. Constant expressions are answered as a
whole, because the interpreter may remember their values. -/
theorem findsSame_operandValue (sound : pair.IsSound) (knows : pair.Knows context bound) :
    ∀ {expression : Expr} {levels : Nat} {state after : State} {machine : Machine.State}
    {value : Value} {lowered : LoopExpr}, expression.computesWith pair.terms bound = true →
    context.lowerExpr? expression = some lowered → pair.InStep bound state machine →
    (Engine.within levels).operandValue expression pair.environment state = .ok value after →
    pair.FindsSame state machine value after lowered
  | .literal literal, levels, state, after, machine, value, lowered, computes, lowers, inStep,
      ran => by
      have scalar : literal.isReference = false := by simpa [Expr.computesWith] using computes
      exact findsSame_literal sound scalar lowers inStep ran
  | .var name, levels, state, after, machine, value, lowered, computes, lowers, inStep, ran => by
      have isBound : Text.asciiLower name ∈ bound := by
        simpa [Expr.computesWith] using computes
      have ran := Engine.nodeValue_of_operandValue sound.noText computes (by simp) rfl ran
      exact findsSame_variable sound knows isBound lowers inStep ran
  | .unary operator operand, levels, state, after, machine, value, lowered, computes, lowers,
      inStep, ran => by
      have parts := computes
      simp only [Expr.computesWith, Bool.and_eq_true] at parts
      by_cases isConstant : (Expr.unary operator operand).isConstant = true
      · exact findsSame_constant sound isConstant
          (Expr.constants_of_keepsTo parts.1 isConstant) lowers inStep ran
      rw [Bool.not_eq_true] at isConstant
      simp only [LoweringContext.lowerExpr?, Option.map_eq_some_iff] at lowers
      obtain ⟨lowerOperand, lowers, rfl⟩ := lowers
      have ran := Engine.nodeValue_of_operandValue sound.noText computes (by simp) isConstant ran
      obtain ⟨held, middle, found, ran⟩ := Running.ok_of_bind (Eval.ok_of_tick ran)
      cases ran
      obtain ⟨fewer, found⟩ := Engine.exists_operandValue_of_operand found
      have same := findsSame_operandValue sound knows parts.2 lowers (sound.ticked inStep _) found
      exact same.of_withTicks.unary operator
  | .binary operator left right, levels, state, after, machine, value, lowered, computes, lowers,
      inStep, ran => by
      have parts := computes
      simp only [Expr.computesWith, Bool.and_eq_true] at parts
      by_cases isConstant : (Expr.binary operator left right).isConstant = true
      · exact findsSame_constant sound isConstant
          (Expr.constants_of_keepsTo parts.1.1 isConstant) lowers inStep ran
      rw [Bool.not_eq_true] at isConstant
      rw [LoweringContext.lowerExpr?] at lowers
      split at lowers
      · rename_i lowerLeft lowerRight lowersLeft lowersRight
        cases lowers
        have ran := Engine.nodeValue_of_operandValue sound.noText computes (by simp) isConstant ran
        obtain ⟨leftValue, middle, foundLeft, ran⟩ := Running.ok_of_bind (Eval.ok_of_tick ran)
        obtain ⟨rightValue, last, foundRight, ran⟩ := Running.ok_of_bind ran
        obtain ⟨fewer, foundLeft⟩ := Engine.exists_operandValue_of_operand foundLeft
        obtain ⟨fewer, foundRight⟩ := Engine.exists_operandValue_of_operand foundRight
        have sameLeft := findsSame_operandValue sound knows parts.1.2 lowersLeft
          (sound.ticked inStep _) foundLeft
        have inMiddle := sameLeft.inStep sound (sound.ticked inStep _)
        have sameRight := findsSame_operandValue sound knows parts.2 lowersRight inMiddle foundRight
        obtain ⟨applied, rfl⟩ := Eval.ok_of_lift ran
        exact sameLeft.of_withTicks.binary sameRight applied
      · cases lowers
  | .call (.var name) [index], levels, state, after, machine, value, lowered, computes, lowers,
      inStep, ran => by
      have parts := computes
      simp only [Expr.computesWith, Bool.and_eq_true, List.contains_iff_mem] at parts
      simp only [LoweringContext.lowerExpr?, LoweringContext.lowerExprs?] at lowers
      cases lowersIndex : context.lowerExpr? index with
      | none => simp [lowersIndex] at lowers
      | some lowerIndex =>
          simp only [lowersIndex, knows.lowerCall? parts.1, Option.some.injEq] at lowers
          subst lowers
          have ran := Engine.nodeValue_of_operandValue sound.noText computes (by simp) rfl ran
          have inTicked := sound.ticked inStep (state.run.limiter.ticks + 1)
          obtain ⟨place, copy, alike⟩ := sound.element inTicked parts.1
          have ran := (Engine.callValue_eq alike.bound).symm.trans (Eval.ok_of_tick ran)
          obtain ⟨indices, middle, foundIndices, ran⟩ := Running.ok_of_bind ran
          obtain ⟨fewer, indexValue, rfl, foundIndex⟩ :=
            Engine.exists_operandValue_of_operands foundIndices
          have same := findsSame_operandValue sound knows parts.2 lowersIndex inTicked foundIndex
          obtain ⟨found, rfl⟩ := Eval.ok_of_lift ran
          exact (same.element alike found).of_withTicks
  | .member .., _, _, _, _, _, _, computes, _, _, _ | .receiver, _, _, _, _, _, _, computes, _, _, _
  | .call (.literal _) _, _, _, _, _, _, _, computes, _, _, _
  | .call .receiver _, _, _, _, _, _, _, computes, _, _, _
  | .call (.unary ..) _, _, _, _, _, _, _, computes, _, _, _
  | .call (.binary ..) _, _, _, _, _, _, _, computes, _, _, _
  | .call (.member ..) _, _, _, _, _, _, _, computes, _, _, _
  | .call (.call ..) _, _, _, _, _, _, _, computes, _, _, _
  | .call (.var _) [], _, _, _, _, _, _, computes, _, _, _
  | .call (.var _) (_ :: _ :: _), _, _, _, _, _, _, computes, _, _, _ => by
      simp [Expr.computesWith] at computes

theorem findsSame_operand (sound : pair.IsSound) (knows : pair.Knows context bound)
    {expression : Expr} {levels : Nat} {value : Value} {lowered : LoopExpr}
    (computes : expression.computesWith pair.terms bound = true)
    (lowers : context.lowerExpr? expression = some lowered) (inStep : pair.InStep bound state machine)
    (ran : (Engine.within levels).operand expression pair.environment state = .ok value after) :
    pair.FindsSame state machine value after lowered := by
  obtain ⟨fewer, found⟩ := Engine.exists_operandValue_of_operand ran
  exact findsSame_operandValue sound knows computes lowers inStep found

end LockStep

end MacroSandbox
