import MacroSandbox.Proofs.LockStep

/-! Loops that the machine follows: first the rounds of a loop whose body is followed, then every
statement of a loop that computes with variables and elements, by recursion on the statement. -/

namespace MacroSandbox

namespace LockStep

variable {pair : LockStep} {bound : List String} {state after : State} {machine : Machine.State}
  {context : LoweringContext}

/-! ## Steps in step -/

theorem IsSound.advance (sound : pair.IsSound) {index : String} {step : Value}
    (inStep : pair.InStep (Text.asciiLower index :: bound) state machine)
    (isAssigned : Text.asciiLower index ∈ pair.terms.assigned) (scalar : step.isReference = false)
    {next : State} (ran : Engine.advance index step pair.environment state = .ok () next) :
    ∃ following, Machine.advance (Text.asciiLower index) step pair.setup machine =
        .ok () following ∧
      pair.InStep (Text.asciiLower index :: bound) next following ∧
      following.iterations = machine.iterations := by
  obtain ⟨held, heldScalar, holds, loads⟩ := sound.load inStep (.head _)
  simp only [Engine.advance, Eval.variableOrNull, Eval.scope, Running.run_bind, Running.run_get,
    Running.run_read, Running.run_pure, holds, Option.getD_some] at ran
  rw [BinaryOperator.add.apply_congr heldScalar scalar state.heap machine.heap] at ran
  simp only [Machine.advance, Running.run_bind, loads, Running.run_get]
  cases applied : BinaryOperator.add.apply machine.heap held step with
  | error fault =>
      rw [applied] at ran
      cases ran
  | ok value =>
      simp only [applied, Eval.lift, Eval.setVariable, Running.run_pure, Running.run_bind,
        Running.run_read, Running.run_modify, EStateM.Result.ok.injEq, true_and] at ran
      subst ran
      obtain ⟨following, stores, inStepNext, same⟩ :=
        sound.store inStep isAssigned (BinaryOperator.isReference_of_apply applied)
      refine ⟨following, stores, sound.weaken ?_ inStepNext, same⟩
      exact fun name member => List.mem_cons_of_mem _ member

/-- A statement ends alike on both sides, and more names have a value if it went on to its end. An
exit leaves one of the loops around it. -/
inductive EndsAlike (loops : List LoopKind) (gained : List String) :
    Flow → Machine.Flow → List String → Prop
  | normal : EndsAlike loops gained .continue .normal gained
  | exitFor (inside : .for ∈ loops) : EndsAlike loops gained .exitFor (.break .for) []
  | exitDo (inside : .do ∈ loops) : EndsAlike loops gained .exitDo (.break .do) []

/-- The machine has counted so many iterations, and both sides have ended well, alike and in step.
Or the machine has given up, as it may by then. -/
inductive EndInStep (pair : LockStep) (bound gained : List String) (loops : List LoopKind)
    (iterations : Nat) :
    EStateM.Result Interruption State Flow →
    EStateM.Result Machine.Stop Machine.State Machine.Flow → Prop
  | inStep {flow : Flow} {state : State} {machineFlow : Machine.Flow} {machine : Machine.State}
      {more : List String} (alike : EndsAlike loops gained flow machineFlow more)
      (inStep : pair.InStep (more ++ bound) state machine)
      (same : machine.iterations = iterations) :
      EndInStep pair bound gained loops iterations (.ok flow state) (.ok machineFlow machine)
  | gaveUp {ran : EStateM.Result Interruption State Flow} {halt : Machine.Halt}
      {machine : Machine.State} (stops : pair.MayStop iterations) :
      EndInStep pair bound gained loops iterations ran (.error (.halt halt) machine)

/-- A part of the machine follows a part of the interpreter wherever the bodies that the part runs
can be counted. -/
def Follows (pair : LockStep) (bound gained : List String) (loops : List LoopKind)
    (bodies? : State → Option Nat) (interpreted : Eval Flow) (compiled : Machine Machine.Flow) :
    Prop :=
  ∀ (state : State) (machine : Machine.State) (count : Nat), bodies? state = some count →
    pair.InStep bound state machine →
    pair.EndInStep bound gained loops (machine.iterations + count)
      (interpreted pair.environment state) (compiled pair.setup machine)

namespace EndInStep

variable {gained : List String} {loops : List LoopKind} {iterations : Nat}
  {ran : EStateM.Result Interruption State Flow}
  {executed : EStateM.Result Machine.Stop Machine.State Machine.Flow}

theorem outcomes (ends : pair.EndInStep bound gained loops iterations ran executed) :
    (∃ halt machine, executed = .error (.halt halt) machine ∧ pair.MayStop iterations) ∨
    (∃ flow state machineFlow machine more, ran = .ok flow state ∧
      executed = .ok machineFlow machine ∧ EndsAlike loops gained flow machineFlow more ∧
      pair.InStep (more ++ bound) state machine ∧ machine.iterations = iterations) := by
  cases ends with
  | gaveUp stops => exact .inl ⟨_, _, rfl, stops⟩
  | inStep alike inStep same => exact .inr ⟨_, _, _, _, _, rfl, rfl, alike, inStep, same⟩

theorem gain (sound : pair.IsSound)
    (ends : pair.EndInStep (gained ++ bound) [] loops iterations ran executed) :
    pair.EndInStep bound gained loops iterations ran executed := by
  cases ends with
  | gaveUp stops => exact .gaveUp stops
  | @inStep flow state machineFlow machine more alike inStep same =>
      have fewer : pair.InStep bound state machine :=
        sound.weaken (fun name member => List.mem_append_right _ (List.mem_append_right _ member))
          inStep
      cases alike with
      | normal => exact .inStep .normal inStep same
      | exitFor inside => exact .inStep (.exitFor inside) fewer same
      | exitDo inside => exact .inStep (.exitDo inside) fewer same

theorem forget (sound : pair.IsSound)
    (ends : pair.EndInStep bound gained loops iterations ran executed) :
    pair.EndInStep bound [] loops iterations ran executed := by
  cases ends with
  | gaveUp stops => exact .gaveUp stops
  | @inStep flow state machineFlow machine more alike inStep same =>
      have fewer : pair.InStep bound state machine :=
        sound.weaken (fun name member => List.mem_append_right _ member) inStep
      cases alike with
      | normal => exact .inStep .normal fewer same
      | exitFor inside => exact .inStep (.exitFor inside) fewer same
      | exitDo inside => exact .inStep (.exitDo inside) fewer same

end EndInStep

theorem IsSound.endInStep_of_tick (sound : pair.IsSound) (inStep : pair.InStep bound state machine)
    {gained : List String} {loops : List LoopKind} {count : Nat}
    {ran : EStateM.Result Interruption State Flow} {rest : Machine Machine.Flow}
    (follows : ∀ ticked, pair.InStep bound state ticked →
      pair.EndInStep bound gained loops (ticked.iterations + count) ran (rest pair.setup ticked)) :
    pair.EndInStep bound gained loops (machine.iterations + count) ran
      ((do Machine.tick; rest : Machine Machine.Flow) pair.setup machine) := by
  rcases sound.machineTick inStep with
    ⟨ticked, ticks, inStepTicked, same⟩ | ⟨stops, _, _, ticks⟩
  · simp only [Running.run_bind, ticks]
    rw [← same]
    exact follows ticked inStepTicked
  · simp only [Running.run_bind, ticks]
    exact .gaveUp (stops.mono (Nat.le_add_right _ _))

/-! ## Rounds -/

theorem isPast_eq_pastEnd {current finish : Value} (currentScalar : current.isReference = false)
    (finishScalar : finish.isReference = false) (heap other : Heap) (descending : Bool) :
    Engine.isPast heap descending current finish =
      Machine.pastEnd descending (compareValues other current finish) := by
  have same := compareValues_congr currentScalar finishScalar heap other
  unfold Engine.isPast Machine.pastEnd
  cases compared : compareValues other current finish with
  | none => simp only [same, compared]
  | some order => cases order <;> simp only [same, compared]

def afterBody (ownExit : Flow) : Flow → Engine.AfterBody
  | .continue => .repeat
  | flow => if flow == ownExit then .stop else .leave flow

theorem runBody_eq {engine : Engine} {body : List Statement} {ownExit flow : Flow}
    (ran : engine.block body pair.environment state = .ok flow after)
    (notPending : (after.frame.errorState == .pending) = false) :
    engine.runBody body ownExit pair.environment state = .ok (afterBody ownExit flow) after := by
  simp only [Engine.runBody, Running.run_bind, ran, Eval.mustHandleError, Running.run_get,
    Running.run_pure, notPending]
  cases flow <;> cases ownExit <;> rfl

/-- One round that the machine follows. Either the machine gives up, or both sides go on with what
the body ended with, whatever is left to do on the side of the machine. -/
theorem IsSound.round (sound : pair.IsSound) {engine : Engine} {loops : List LoopKind}
    {body : List Statement} {inBody : State → Option Nat} {compiled : Machine Machine.Flow}
    (followsBody : pair.Follows bound [] loops inBody (engine.block body) compiled) {inside : Nat}
    (countsInside : inBody state = some inside) (inStep : pair.InStep bound state machine) :
    (∃ halt stopped, pair.MayStop (machine.iterations + (inside + 1)) ∧
      ∀ rest : Machine.Flow → Machine Machine.Flow,
        (do Machine.countIteration; rest (← compiled) : Machine Machine.Flow) pair.setup machine =
          .error (.halt halt) stopped) ∨
    ∃ flow after machineFlow following more, EndsAlike loops [] flow machineFlow more ∧
      pair.InStep (more ++ bound) after following ∧
      following.iterations = machine.iterations + (inside + 1) ∧
      machine.iterations < pair.setup.maxIterations ∧
      (∀ ownExit, engine.runBody body ownExit pair.environment state =
        .ok (afterBody ownExit flow) after) ∧
      ∀ rest : Machine.Flow → Machine Machine.Flow,
        (do Machine.countIteration; rest (← compiled) : Machine Machine.Flow) pair.setup machine =
          rest machineFlow pair.setup following := by
  rcases sound.countIteration inStep with
    ⟨counted, counting, inStepCounted, iterations, few⟩ | ⟨stops, halt, stopped, counting⟩
  rotate_left
  · refine .inl ⟨halt, stopped, stops.mono (by omega), fun rest => ?_⟩
    simp only [Running.run_bind, counting]
  rcases (followsBody state counted inside countsInside inStepCounted).outcomes with
    ⟨halt, stopped, executed, stops⟩ |
    ⟨flow, after, machineFlow, following, more, ran, executed, alike, inStepAfter, same⟩
  · refine .inl ⟨halt, stopped, stops.mono (by omega), fun rest => ?_⟩
    simp only [Running.run_bind, counting, executed]
  · refine .inr ⟨flow, after, machineFlow, following, more, alike, inStepAfter, by omega, few,
      fun ownExit => runBody_eq ran (sound.notPending inStepAfter), fun rest => ?_⟩
    simp only [Running.run_bind, counting, executed]

theorem follows_range (sound : pair.IsSound) {engine : Engine} {loops : List LoopKind}
    {body : List Statement} {inBody : State → Option Nat} {compiled : Machine Machine.Flow}
    {index : String} {finish step : Value}
    (followsBody : pair.Follows (Text.asciiLower index :: bound) [] (.for :: loops) inBody
      (engine.block body) compiled)
    (isAssigned : Text.asciiLower index ∈ pair.terms.assigned)
    (finishScalar : finish.isReference = false) (stepScalar : step.isReference = false)
    (descending : Bool) :
    ∀ (rounds left : Nat) (state : State) (machine : Machine.State) (count : Nat),
      engine.rangeBodies? pair.environment index finish step descending body inBody rounds state =
        some count →
      pair.InStep (Text.asciiLower index :: bound) state machine →
      pair.setup.maxIterations - machine.iterations < left →
      pair.EndInStep (Text.asciiLower index :: bound) [] loops (machine.iterations + count)
        (engine.runRange index finish step descending body rounds pair.environment state)
        (Machine.rangeLoop compiled (Text.asciiLower index) finish step descending left pair.setup
          machine) := by
  intro rounds
  -- By induction on the rounds that the interpreter allows. The machine has rounds left because it
  -- counts iterations against a limit of its own: each round moves both counts by one.
  induction rounds with
  | zero =>
      intro left state machine count counts inStep enough
      obtain ⟨held, scalar, holds, loads⟩ := sound.load inStep (.head _)
      -- No round is left to the interpreter. Its count of bodies exists only if the loop ends here.
      obtain ⟨left, rfl⟩ := Nat.exists_eq_add_one_of_ne_zero (by omega : left ≠ 0)
      simp only [Engine.rangeBodies?, holds, Option.getD_some,
        isPast_eq_pastEnd scalar finishScalar state.heap machine.heap] at counts
      split at counts
      · rename_i past
        cases counts
        simp only [Engine.runRange, Machine.rangeLoop, Running.run_pure, Running.run_bind,
          Running.run_get, loads, past]
        exact .inStep .normal inStep rfl
      · cases counts
  | succ rounds induction =>
      intro left state machine count counts inStep enough
      obtain ⟨held, scalar, holds, loads⟩ := sound.load inStep (.head _)
      obtain ⟨left, rfl⟩ := Nat.exists_eq_add_one_of_ne_zero (by omega : left ≠ 0)
      have sameTest := isPast_eq_pastEnd scalar finishScalar state.heap machine.heap descending
      simp only [Engine.rangeBodies?, holds, Option.getD_some, sameTest] at counts
      simp only [Engine.runRange, Machine.rangeLoop, Running.run_bind, Running.run_get, loads,
        Eval.variableOrNull, Eval.scope, Running.run_read, Running.run_pure, holds,
        Option.getD_some, sameTest]
      split at counts
      · rename_i past
        cases counts
        simp only [past]
        exact .inStep .normal inStep rfl
      · rename_i notPast
        simp only [Option.bind_eq_bind, Option.bind_eq_some_iff] at counts
        obtain ⟨inside, countsInside, others, counts, total⟩ := counts
        have total : inside + 1 + others = count := Option.some.inj total
        rw [if_neg notPast, if_neg notPast]
        rcases sound.round followsBody countsInside inStep with ⟨_, _, stops, gaveUp⟩ |
          ⟨flow, after, machineFlow, following, more, alike, inStepAfter, same, few, ran, goesOn⟩
        · rw [gaveUp]
          exact .gaveUp (stops.mono (by omega))
        rw [ran] at counts
        rw [goesOn, Running.run_bind, ran]
        cases alike with
        | normal =>
            simp only [afterBody] at counts ⊢
            cases advanced : Engine.advance index step pair.environment after with
            | error interruption last =>
                rw [advanced] at counts
                cases counts
            | ok _ next =>
                rw [advanced] at counts
                obtain ⟨moved, advances, inStepNext, unchanged⟩ :=
                  sound.advance inStepAfter isAssigned stepScalar advanced
                simp only [Running.run_bind, advanced, advances]
                have rest := induction left next moved others counts inStepNext (by omega)
                rwa [show machine.iterations + count = moved.iterations + others by omega]
        | exitFor inside =>
            cases counts
            exact .inStep .normal inStepAfter (by omega)
        | exitDo inside =>
            cases counts
            exact .inStep (.exitDo (by simpa using inside)) inStepAfter (by omega)

def TestsAlike (pair : LockStep) (bound : List String) (interpreted : Bool → Eval Bool)
    (compiled : Bool → Machine Bool) : Prop :=
  ∀ (tested : Bool) (state after : State) (machine : Machine.State) (answer : Bool),
    pair.InStep bound state machine →
    interpreted tested pair.environment state = .ok answer after →
    pair.InStep bound after machine ∧ compiled tested pair.setup machine = .ok answer machine

theorem TestsAlike.ends {engine : Engine} {loops : List LoopKind} {body : List Statement}
    {compiled : Machine Machine.Flow} {condition : Option (LoopTest × Expr)} {lowered : Machine Bool}
    (testsAlike : pair.TestsAlike bound (engine.testWhen · condition)
      (Machine.testWhen · lowered))
    (testFirst : Bool) (rounds left : Nat) (inStep : pair.InStep bound state machine)
    (tests : engine.testWhen testFirst condition pair.environment state = .ok false after) :
    pair.EndInStep bound [] loops machine.iterations
      (engine.runConditional condition testFirst body rounds pair.environment state)
      (Machine.conditionalLoop compiled lowered testFirst (left + 1) pair.setup machine) := by
  obtain ⟨inStepAfter, alike⟩ := testsAlike _ _ _ _ _ inStep tests
  cases rounds <;>
    simp only [Engine.runConditional, Machine.conditionalLoop, Running.run_bind, tests, alike] <;>
    exact .inStep .normal inStepAfter rfl

theorem follows_conditional (sound : pair.IsSound) {engine : Engine} {loops : List LoopKind}
    {body : List Statement} {inBody : State → Option Nat} {compiled : Machine Machine.Flow}
    (followsBody : pair.Follows bound [] (.do :: loops) inBody (engine.block body) compiled)
    {condition : Option (LoopTest × Expr)} {lowered : Machine Bool}
    (testsAlike : pair.TestsAlike bound (engine.testWhen · condition)
      (Machine.testWhen · lowered))
    (testFirst : Bool) :
    ∀ (rounds left : Nat) (state : State) (machine : Machine.State) (count : Nat),
      engine.conditionalBodies? pair.environment condition testFirst body inBody rounds state =
        some count →
      pair.InStep bound state machine → pair.setup.maxIterations - machine.iterations < left →
      pair.EndInStep bound [] loops (machine.iterations + count)
        (engine.runConditional condition testFirst body rounds pair.environment state)
        (Machine.conditionalLoop compiled lowered testFirst left pair.setup machine) := by
  intro rounds
  -- As for a range: the limit of the machine bounds its rounds, so `left` is never used up.
  induction rounds with
  | zero =>
      intro left state machine count counts inStep enough
      obtain ⟨left, rfl⟩ := Nat.exists_eq_add_one_of_ne_zero (by omega : left ≠ 0)
      rw [Engine.conditionalBodies?] at counts
      split at counts
      · rename_i after tests
        cases counts
        exact testsAlike.ends testFirst _ left inStep tests
      · cases counts
      · cases counts
  | succ rounds induction =>
      intro left state machine count counts inStep enough
      obtain ⟨left, rfl⟩ := Nat.exists_eq_add_one_of_ne_zero (by omega : left ≠ 0)
      rw [Engine.conditionalBodies?] at counts
      split at counts
      · rename_i after tests
        cases counts
        exact testsAlike.ends testFirst _ left inStep tests
      · rename_i tested tests
        obtain ⟨inStepTested, alike⟩ := testsAlike _ _ _ _ _ inStep tests
        simp only [Option.bind_eq_bind, Option.bind_eq_some_iff] at counts
        obtain ⟨inside, countsInside, others, counts, total⟩ := counts
        have total : inside + 1 + others = count := Option.some.inj total
        simp only [Engine.runConditional, Machine.conditionalLoop, Running.run_bind, tests, alike]
        simp only [Bool.not_true, Bool.false_eq_true, if_false]
        rcases sound.round followsBody countsInside inStepTested with ⟨_, _, stops, gaveUp⟩ |
          ⟨flow, after, machineFlow, following, more, ends, inStepAfter, same, few, ran, goesOn⟩
        · rw [gaveUp]
          exact .gaveUp (stops.mono (by omega))
        rw [ran] at counts
        rw [goesOn, Running.run_bind, ran]
        cases ends with
        | normal =>
            simp only [afterBody] at counts ⊢
            split at counts
            · rename_i last testsLast
              cases counts
              obtain ⟨inStepLast, alikeLast⟩ := testsAlike _ _ _ _ _ inStepAfter testsLast
              simp only [Running.run_bind, testsLast, alikeLast]
              exact .inStep .normal inStepLast (by omega)
            · rename_i next testsLast
              obtain ⟨inStepNext, alikeLast⟩ := testsAlike _ _ _ _ _ inStepAfter testsLast
              simp only [Running.run_bind, testsLast, alikeLast]
              have rest := induction left next following others counts inStepNext (by omega)
              rwa [show machine.iterations + count = following.iterations + others by omega]
            · cases counts
        | exitFor inside =>
            cases counts
            exact .inStep (.exitFor (by simpa using inside)) inStepAfter (by omega)
        | exitDo inside =>
            cases counts
            exact .inStep .normal inStepAfter (by omega)
      · cases counts

/-! ## Parts of statements -/

def LowersTest (context : LoweringContext) :
    Option (LoopTest × Expr) → Option (LoopTest × LoopExpr) → Prop
  | none, none => True
  | some (test, condition), some (lowerTest, lowered) =>
      test = lowerTest ∧ context.lowerExpr? condition = some lowered
  | _, _ => False

theorem testsAlike_of_lowers (sound : pair.IsSound) (knows : pair.Knows context bound)
    {condition : Option (LoopTest × Expr)} {lowered : Option (LoopTest × LoopExpr)}
    (lowers : LowersTest context condition lowered)
    (computes : condition.all (·.2.computesWith pair.terms bound) = true)
    (levels : Nat) (calls : Machine.Calls) :
    pair.TestsAlike bound ((Engine.within levels).testWhen · condition)
      (Machine.testWhen · (Machine.goesOn calls lowered)) := by
  intro tested state after machine answer inStep ran
  cases tested with
  | false =>
      cases ran
      exact ⟨inStep, rfl⟩
  | true =>
      simp only [Engine.testWhen, Machine.testWhen, reduceIte] at ran ⊢
      match condition, lowered, lowers with
      | none, none, _ =>
          cases ran
          exact ⟨inStep, rfl⟩
      | some (test, condition), some (_, lowered), ⟨rfl, lowers⟩ =>
          -- Both tests evaluate the condition first, and only then differ in what they ask of it.
          have found {rest : Value → Eval Bool}
              (ran : ((Engine.within levels).operand condition >>= rest) pair.environment state =
                .ok answer after) :
              ∃ value middle, pair.FindsSame state machine value middle lowered ∧
                rest value pair.environment middle = .ok answer after := by
            obtain ⟨value, middle, found, ran⟩ := Running.ok_of_bind ran
            exact ⟨value, middle, findsSame_operand sound knows computes lowers inStep found, ran⟩
          cases test with
          | «while» =>
              obtain ⟨value, middle, same, ran⟩ := found ran
              cases ran
              refine ⟨same.inStep sound inStep, ?_⟩
              simp only [Machine.goesOn, Running.run_bind, same.evaluate, Running.run_get,
                Heap.isTruthy_congr same.scalar machine.heap after.heap, Running.run_pure]
          | «until» =>
              obtain ⟨value, middle, same, ran⟩ := found ran
              cases ran
              refine ⟨same.inStep sound inStep, ?_⟩
              simp only [Machine.goesOn, Running.run_bind, same.evaluate, Running.run_get,
                Heap.isTruthy_congr same.scalar machine.heap after.heap, Running.run_pure]

theorem follows_assign (sound : pair.IsSound) (knows : pair.Knows context bound)
    {loops : List LoopKind} {name : String} {value : Expr} {lowered : LoopExpr}
    (isAssigned : Text.asciiLower name ∈ pair.terms.assigned)
    (computes : value.computesWith pair.terms bound = true)
    (lowers : context.lowerExpr? value = some lowered) (levels : Nat) (calls : Machine.Calls)
    (nested : Bool) (guard : Machine.Guard) :
    pair.Follows bound [Text.asciiLower name] loops
      ((Statement.assign (.var name) value).bodies? pair.environment levels)
      ((Engine.within levels).runStatement (.assign (.var name) value))
      (Machine.execute calls nested guard (.assign (Text.asciiLower name) lowered)) := by
  intro state machine count counts inStep
  simp only [Statement.bodies?] at counts
  split at counts
  · rename_i flow after ran
    cases counts
    rw [Machine.execute]
    refine sound.endInStep_of_tick inStep fun ticked inStepTicked => ?_
    simp only [Engine.runStatement] at ran ⊢
    obtain ⟨held, middle, found, ended⟩ := Running.ok_of_bind ran
    have same := findsSame_operand sound knows computes lowers inStepTicked found
    obtain ⟨following, stores, inStepAfter, unchanged⟩ :=
      sound.store (same.inStep sound inStepTicked) isAssigned same.scalar
    simp only [Running.run_bind, same.evaluate, stores, found, Engine.assign, Eval.setVariable,
      Running.run_read, Running.run_modify]
    exact .inStep .normal inStepAfter unchanged
  · cases counts

theorem IsSound.assignElement (sound : pair.IsSound) (knows : pair.Knows context bound)
    {name : String} {index : Expr} {lowerIndex lowerValue : LoopExpr} {value : Value} {levels : Nat}
    {before : State} (isChanged : Text.asciiLower name ∈ pair.terms.changed)
    (notOverwrite : LoweringContext.isOverwrite name = false)
    (computes : index.computesWith pair.terms bound = true)
    (lowers : context.lowerExpr? index = some lowerIndex) (inStep : pair.InStep bound state machine)
    (sameValue : pair.FindsSame before machine value state lowerValue)
    (ran : (Engine.within levels).assign (.call (.var name) [index]) value pair.environment state =
      .ok () after) :
    ∃ following, (∀ calls, Machine.assignElement calls (Text.asciiLower name) [lowerIndex] lowerValue
        pair.setup machine = .ok () following) ∧
      pair.InStep bound after following ∧ following.iterations = machine.iterations := by
  obtain ⟨place, _, atFirst, _⟩ := sound.change inStep isChanged
  rw [Engine.assign_element_eq notOverwrite atFirst.bound] at ran
  obtain ⟨indices, middle, foundIndices, ran⟩ := Running.ok_of_bind ran
  obtain ⟨fewer, position, rfl, foundIndex⟩ := Engine.exists_operandValue_of_operands foundIndices
  have sameIndex := findsSame_operandValue sound knows computes lowers inStep foundIndex
  -- The list is looked up again, because evaluating the index may have changed what is remembered.
  obtain ⟨_, copy, alike, small, writes⟩ :=
    sound.change (sameIndex.inStep sound inStep) isChanged
  obtain ⟨caches, ticks, rfl, _⟩ := sameIndex.recalls
  obtain rfl := Value.list.inj (Option.some.inj (atFirst.bound.symm.trans alike.bound))
  cases slots : elementSlot (state.recalling caches ticks).heap (.list place) [position] with
  | error fault =>
      rw [Eval.storeElement_of_error slots] at ran
      cases ran
  | ok slot =>
      obtain ⟨offset, inside, rfl, growing⟩ :=
        @growingSlot_of_elementSlot _ machine.heap _ copy _ _ small slots
      rw [Eval.storeElement_of_ok slots] at ran
      cases ran
      refine ⟨_, fun calls => ?_, writes offset value inside sameValue.scalar, rfl⟩
      simp only [Machine.assignElement, Machine.evaluateAll, Running.run_bind, sameValue.evaluate,
        sameIndex.evaluate, Running.run_pure, alike.loads, Machine.updateElement_of_ok growing]

theorem follows_assignElement (sound : pair.IsSound) (knows : pair.Knows context bound)
    {loops : List LoopKind} {name : String} {index value : Expr} {lowerIndex lowerValue : LoopExpr}
    (isChanged : Text.asciiLower name ∈ pair.terms.changed)
    (notOverwrite : LoweringContext.isOverwrite name = false)
    (indexComputes : index.computesWith pair.terms bound = true)
    (valueComputes : value.computesWith pair.terms bound = true)
    (lowersIndex : context.lowerExpr? index = some lowerIndex)
    (lowersValue : context.lowerExpr? value = some lowerValue) (levels : Nat)
    (calls : Machine.Calls) (nested : Bool) (guard : Machine.Guard) :
    pair.Follows bound [] loops
      ((Statement.assign (.call (.var name) [index]) value).bodies? pair.environment levels)
      ((Engine.within levels).runStatement (.assign (.call (.var name) [index]) value))
      (Machine.execute calls nested guard
        (.assignElement (Text.asciiLower name) [lowerIndex] lowerValue)) := by
  intro state machine count counts inStep
  simp only [Statement.bodies?] at counts
  split at counts
  · rename_i flow after ran
    cases counts
    rw [Machine.execute]
    refine sound.endInStep_of_tick inStep fun ticked inStepTicked => ?_
    simp only [Engine.runStatement] at ran ⊢
    obtain ⟨held, middle, found, ended⟩ := Running.ok_of_bind ran
    have same := findsSame_operand sound knows valueComputes lowersValue inStepTicked found
    obtain ⟨_, last, assigns, ended⟩ := Running.ok_of_bind ended
    cases ended
    obtain ⟨following, writes, inStepAfter, unchanged⟩ :=
      sound.assignElement knows isChanged notOverwrite indexComputes lowersIndex
        (same.inStep sound inStepTicked) same assigns
    rw [ran]
    simp only [Running.run_bind, writes, Running.run_pure]
    exact .inStep .normal inStepAfter unchanged
  · cases counts

theorem IsSound.startRange (sound : pair.IsSound) (knows : pair.Knows context bound)
    (inStep : pair.InStep bound state machine) {index : String} {start finish : Expr}
    {step : Option Expr} (isAssigned : Text.asciiLower index ∈ pair.terms.assigned)
    (startComputes : start.computesWith pair.terms bound = true)
    (finishComputes : finish.computesWith pair.terms bound = true)
    (stepComputes : step.all (·.computesWith pair.terms bound) = true)
    {lowerStart lowerFinish : LoopExpr} {lowerStep : Option LoopExpr}
    (lowersStart : context.lowerExpr? start = some lowerStart)
    (lowersFinish : context.lowerExpr? finish = some lowerFinish)
    (lowersStep : context.lowerOptional? step = some lowerStep)
    {levels : Nat} {bounds : Value × Value}
    (ran : (Engine.within levels).startRange index start finish step pair.environment state =
      .ok bounds after) :
    ∃ startValue finishValue stepValue following,
      bounds = (finishValue.toNumber, (stepValue.getD (.integer 1)).toNumber) ∧
      (∀ calls, Machine.evaluate calls lowerStart pair.setup machine = .ok startValue machine) ∧
      (∀ calls, Machine.evaluate calls lowerFinish pair.setup machine = .ok finishValue machine) ∧
      (∀ calls, Machine.evaluateOptional calls lowerStep pair.setup machine =
        .ok stepValue machine) ∧
      Machine.store (Text.asciiLower index) startValue.toNumber pair.setup machine =
        .ok () following ∧
      pair.InStep (Text.asciiLower index :: bound) after following ∧
      following.iterations = machine.iterations := by
  simp only [Engine.startRange] at ran
  obtain ⟨startValue, first, foundStart, ran⟩ := Running.ok_of_bind ran
  obtain ⟨finishValue, second, foundFinish, ran⟩ := Running.ok_of_bind ran
  have sameStart := findsSame_operand sound knows startComputes lowersStart inStep foundStart
  have inFirst := sameStart.inStep sound inStep
  have sameFinish := findsSame_operand sound knows finishComputes lowersFinish inFirst foundFinish
  have inSecond := sameFinish.inStep sound inFirst
  have numeric := Value.isReference_toNumber startValue
  cases step with
  | none =>
      cases lowersStep
      cases ran
      obtain ⟨following, stores, inStepAfter, same⟩ := sound.store inSecond isAssigned numeric
      exact ⟨startValue, finishValue, none, _, rfl, sameStart.evaluate, sameFinish.evaluate,
        fun _ => rfl, stores, inStepAfter, same⟩
  | some step =>
      simp only [LoweringContext.lowerOptional?, Option.map_eq_some_iff] at lowersStep
      obtain ⟨lowerStep, lowersStep, rfl⟩ := lowersStep
      obtain ⟨stepValue, third, foundStep, ran⟩ := Running.ok_of_bind ran
      have sameStep := findsSame_operand sound knows stepComputes lowersStep inSecond foundStep
      cases ran
      obtain ⟨following, stores, inStepAfter, same⟩ :=
        sound.store (sameStep.inStep sound inSecond) isAssigned numeric
      refine ⟨startValue, finishValue, some stepValue, _, rfl, sameStart.evaluate,
        sameFinish.evaluate, fun calls => ?_, stores, inStepAfter, same⟩
      simp only [Machine.evaluateOptional, Running.run_map, sameStep.evaluate]

theorem follows_conditionalStatement (sound : pair.IsSound) (knows : pair.Knows context bound)
    {loops : List LoopKind} {condition : Option (LoopTest × Expr)}
    {lowerCondition : Option (LoopTest × LoopExpr)} {body : List Statement}
    {lowered : List LoopStatement} {levels : Nat} {calls : Machine.Calls} {nested : Bool}
    (lowersTest : LowersTest context condition lowerCondition)
    (computes : condition.all (·.2.computesWith pair.terms bound) = true)
    (followsBody : pair.Follows bound [] (.do :: loops)
      (Statement.bodiesOfBlock? pair.environment levels body) ((Engine.within levels).block body)
      (Machine.executeBlock calls true (Machine.bodyGuard nested) lowered))
    (testFirst : Bool) (guard : Machine.Guard) :
    pair.Follows bound [] loops
      ((Engine.within levels).conditionalBodies? pair.environment condition testFirst body
        (Statement.bodiesOfBlock? pair.environment levels body)
        pair.environment.policy.maxLoopIterations)
      ((Engine.within levels).runConditional condition testFirst body
        pair.environment.policy.maxLoopIterations)
      (Machine.execute calls nested guard (.conditional lowerCondition testFirst lowered)) := by
  intro state machine count counts inStep
  have testsAlike := testsAlike_of_lowers sound knows lowersTest computes levels calls
  rw [Machine.execute]
  refine sound.endInStep_of_tick inStep fun ticked inStepTicked => ?_
  exact follows_conditional sound followsBody testsAlike testFirst
    pair.environment.policy.maxLoopIterations (pair.setup.maxIterations + 1) state ticked count
    counts inStepTicked (by omega)

theorem follows_rangeStatement (sound : pair.IsSound) (knows : pair.Knows context bound)
    {loops : List LoopKind} {index : String} {start finish : Expr} {step : Option Expr}
    {lowerStart lowerFinish : LoopExpr} {lowerStep : Option LoopExpr} {body : List Statement}
    {lowered : List LoopStatement} {levels : Nat} {calls : Machine.Calls} {nested : Bool}
    (isAssigned : Text.asciiLower index ∈ pair.terms.assigned)
    (startComputes : start.computesWith pair.terms bound = true)
    (finishComputes : finish.computesWith pair.terms bound = true)
    (stepComputes : step.all (·.computesWith pair.terms bound) = true)
    (lowersStart : context.lowerExpr? start = some lowerStart)
    (lowersFinish : context.lowerExpr? finish = some lowerFinish)
    (lowersStep : context.lowerOptional? step = some lowerStep)
    (followsBody : pair.Follows (Text.asciiLower index :: bound) [] (.for :: loops)
      (Statement.bodiesOfBlock? pair.environment levels body) ((Engine.within levels).block body)
      (Machine.executeBlock calls true (Machine.bodyGuard nested) lowered))
    (guard : Machine.Guard) :
    pair.Follows bound [Text.asciiLower index] loops
      ((Statement.forRange index start finish step body).bodies? pair.environment levels)
      ((Engine.within levels).runLoop (.forRange index start finish step body))
      (Machine.execute calls nested guard
        (.forRange (Text.asciiLower index) lowerStart lowerFinish lowerStep lowered)) := by
  intro state machine count counts inStep
  simp only [Statement.bodies?] at counts
  split at counts
  · rename_i finishValue stepValue started starts
    rw [Machine.execute]
    refine sound.endInStep_of_tick inStep fun ticked inStepTicked => ?_
    obtain ⟨_, _, _, following, sameBounds, evaluateStart, evaluateFinish, evaluateStep, stores,
      inStepFollowing, sameFollowing⟩ := sound.startRange knows inStepTicked isAssigned
        startComputes finishComputes stepComputes lowersStart lowersFinish lowersStep starts
    cases sameBounds
    have ends := follows_range sound followsBody isAssigned (Value.isReference_toNumber _)
      (Value.isReference_toNumber _) _ _ (pair.setup.maxIterations + 1) started following count
      counts inStepFollowing (by omega)
    simp only [Engine.runLoop, Running.run_bind, Running.run_read, starts, evaluateStart,
      evaluateFinish, evaluateStep, stores]
    rw [sameFollowing] at ends
    exact EndInStep.gain sound ends
  · cases counts

theorem lowersTest_of_lowerStatement? {loops : List LoopKind}
    {condition : Option (LoopTest × Expr)} {testFirst : Bool} {body : List Statement}
    {lowered : LoopStatement}
    (lowers : context.lowerStatement? loops (.doLoop condition testFirst body) = some lowered) :
    ∃ lowerCondition lowerBody, LowersTest context condition lowerCondition ∧
      context.lowerBlock? (.do :: loops) body = some lowerBody ∧
      lowered = .conditional lowerCondition testFirst lowerBody := by
  cases condition with
  | none =>
      simp only [LoweringContext.lowerStatement?, Option.bind_eq_bind,
        Option.bind_eq_some_iff] at lowers
      obtain ⟨lowerBody, lowersBody, same⟩ := lowers
      cases same
      exact ⟨none, lowerBody, trivial, lowersBody, rfl⟩
  | some test =>
      simp only [LoweringContext.lowerStatement?, Option.bind_eq_bind,
        Option.bind_eq_some_iff] at lowers
      obtain ⟨lowerCondition, lowersCondition, lowerBody, lowersBody, same⟩ := lowers
      cases same
      exact ⟨some (test.1, lowerCondition), lowerBody, ⟨rfl, lowersCondition⟩, lowersBody, rfl⟩

theorem follows_exit (sound : pair.IsSound) {kind : ExitKind} {loops : List LoopKind}
    {lowered : LoopStatement}
    (computes : (Statement.exit kind).computesWith pair.terms bound = true)
    (lowers : context.lowerStatement? loops (.exit kind) = some lowered) (levels : Nat)
    (calls : Machine.Calls) (nested : Bool) (guard : Machine.Guard) :
    pair.Follows bound [] loops ((Statement.exit kind).bodies? pair.environment levels)
      ((Engine.within levels).runStatement (.exit kind))
      (Machine.execute calls nested guard lowered) := by
  intro state machine count counts inStep
  cases counts
  simp only [LoweringContext.lowerStatement?] at lowers
  cases kind with
  | «for» =>
      simp only [LoweringContext.lowerExit?] at lowers
      split at lowers
      · rename_i inside
        cases lowers
        rw [Machine.execute]
        exact sound.endInStep_of_tick inStep fun ticked inStepTicked =>
          .inStep (.exitFor (by simpa using inside)) inStepTicked rfl
      · cases lowers
  | «do» =>
      simp only [LoweringContext.lowerExit?] at lowers
      split at lowers
      · rename_i inside
        cases lowers
        rw [Machine.execute]
        exact sound.endInStep_of_tick inStep fun ticked inStepTicked =>
          .inStep (.exitDo (by simpa using inside)) inStepTicked rfl
      · cases lowers
  | sub => cases computes
  | function => cases computes

theorem follows_cons (sound : pair.IsSound) {loops : List LoopKind} {statement : Statement}
    {rest : List Statement} {lowerFirst : LoopStatement} {lowerRest : List LoopStatement}
    {levels : Nat} {calls : Machine.Calls} {nested : Bool} {guard : Machine.Guard}
    (followsFirst : pair.Follows bound statement.gains loops
      (statement.bodies? pair.environment levels) ((Engine.within levels).runStatement statement)
      (Machine.execute calls nested guard lowerFirst))
    (followsRest : pair.Follows (statement.gains ++ bound) [] loops
      (Statement.bodiesOfBlock? pair.environment (levels + 1) rest)
      ((Engine.within (levels + 1)).block rest)
      (Machine.executeBlock calls nested guard lowerRest)) :
    pair.Follows bound [] loops
      (Statement.bodiesOfBlock? pair.environment (levels + 1) (statement :: rest))
      ((Engine.within (levels + 1)).block (statement :: rest))
      (Machine.executeBlock calls nested guard (lowerFirst :: lowerRest)) := by
  intro state machine count counts inStep
  simp only [Statement.bodiesOfBlock?] at counts
  split at counts
  rotate_left
  · cases counts
  rename_i ticked ticks
  obtain rfl := Eval.eq_of_tick ticks
  simp only [Option.bind_eq_bind, Option.bind_eq_some_iff] at counts
  obtain ⟨inside, countsInside, others, counts, total⟩ := counts
  have total : inside + others = count := Option.some.inj total
  rcases (followsFirst _ machine inside countsInside (sound.ticked inStep _)).outcomes with
    ⟨_, _, executed, stops⟩ |
    ⟨flow, after, machineFlow, following, more, ran, executed, alike, inStepAfter, sameAfter⟩
  · simp only [Machine.executeBlock, Running.run_bind, Machine.guarded, executed]
    exact .gaveUp (stops.mono (by omega))
  have pending := sound.notPending inStepAfter
  rw [ran] at counts
  -- The engine runs blocks one level down.
  have interpreted : (Engine.within (levels + 1)).block (statement :: rest) pair.environment
      state = (Engine.within levels).runBlock (statement :: rest) pair.environment state := rfl
  simp only [interpreted, Engine.runBlock, Machine.executeBlock, Running.run_bind, ticks,
    Eval.attempt, ran, Machine.guarded, executed]
  cases alike with
  | normal =>
      -- The first statement went on to its end: the names that it gained have values in the rest.
      simp only [pending] at counts
      have ends := followsRest after following others counts inStepAfter
      simp only [Running.run_bind, Eval.mustHandleError, Running.run_get, Running.run_pure,
        pending]
      rw [show machine.iterations + count = following.iterations + others by omega]
      exact (ends.gain sound).forget sound
  | exitFor inside =>
      cases counts
      exact .inStep (.exitFor inside) inStepAfter (by omega)
  | exitDo inside =>
      cases counts
      exact .inStep (.exitDo inside) inStepAfter (by omega)

/-! ## Statements -/

mutual

theorem follows_statement (sound : pair.IsSound) :
    ∀ {statement : Statement} {bound : List String} {loops : List LoopKind}
      {lowered : LoopStatement}, pair.Knows context bound →
    statement.computesWith pair.terms bound = true →
    context.lowerStatement? loops statement = some lowered →
    ∀ (levels : Nat) (calls : Machine.Calls) (nested : Bool) (guard : Machine.Guard),
      pair.Follows bound statement.gains loops (statement.bodies? pair.environment levels)
        ((Engine.within levels).runStatement statement)
        (Machine.execute calls nested guard lowered)
  | .assign (.var name) value, bound, loops, lowered, knows, computes, lowers, levels, calls,
      nested, guard => by
      simp only [Statement.computesWith, Bool.and_eq_true, List.contains_iff_mem] at computes
      simp only [LoweringContext.lowerStatement?, LoweringContext.lowerAssign?,
        Option.bind_eq_bind, Option.bind_eq_some_iff] at lowers
      obtain ⟨lowerValue, lowers, same⟩ := lowers
      cases same
      exact follows_assign sound knows computes.1 computes.2 lowers levels calls nested guard
  | .assign (.call (.var name) [index]) value, bound, loops, lowered, knows, computes, lowers,
      levels, calls, nested, guard => by
      simp only [Statement.computesWith, Bool.and_eq_true, List.contains_iff_mem,
        Bool.not_eq_true'] at computes
      simp only [LoweringContext.lowerStatement?, LoweringContext.lowerAssign?,
        Option.bind_eq_bind, Option.bind_eq_some_iff, computes.1.1.2, Bool.false_eq_true, if_false,
        knows.areChanged _ computes.1.1.1, if_true, LoweringContext.lowerExprs?] at lowers
      obtain ⟨lowerValue, lowersValue, _, lowersIndices, same⟩ := lowers
      cases same
      split at lowersIndices
      · rename_i lowerIndex rest lowersIndex nothing
        cases nothing
        cases lowersIndices
        exact follows_assignElement sound knows computes.1.1.1 computes.1.1.2 computes.1.2
          computes.2 lowersIndex lowersValue levels calls nested guard
      · cases lowersIndices
  | .branch arms otherwise, bound, loops, lowered, knows, computes, lowers, levels, calls, nested,
      guard => by
      simp only [Statement.computesWith, Bool.and_eq_true] at computes
      simp only [LoweringContext.lowerStatement?, Option.bind_eq_bind,
        Option.bind_eq_some_iff] at lowers
      obtain ⟨lowerArms, lowersArms, lowerOtherwise, lowersOtherwise, same⟩ := lowers
      cases same
      have followsOtherwise := follows_block sound knows computes.2 lowersOtherwise levels calls
        nested guard
      have followsArms := follows_arms sound knows computes.1 lowersArms levels calls nested guard
        followsOtherwise
      intro state machine count counts inStep
      simp only [Statement.bodies?] at counts
      rw [Machine.execute, Engine.runStatement]
      exact sound.endInStep_of_tick inStep fun ticked inStepTicked =>
        followsArms state ticked count counts inStepTicked
  | .forRange index start finish step body, bound, loops, lowered, knows, computes, lowers, levels,
      calls, nested, guard => by
      simp only [Statement.computesWith, Bool.and_eq_true, List.contains_iff_mem] at computes
      simp only [LoweringContext.lowerStatement?, Option.bind_eq_bind,
        Option.bind_eq_some_iff] at lowers
      obtain ⟨lowerStart, lowersStart, lowerFinish, lowersFinish, lowerStep, lowersStep, lowerBody,
        lowersBody, same⟩ := lowers
      cases same
      have isAssigned := computes.1.1.1.1
      have knowsIndex : pair.Knows context ([Text.asciiLower index] ++ bound) :=
        knows.gain (by simpa using isAssigned)
      have followsBody := follows_block sound knowsIndex computes.2 lowersBody levels calls true
        (Machine.bodyGuard nested)
      have followsLoop := follows_rangeStatement sound knows isAssigned computes.1.1.1.2
        computes.1.1.2 computes.1.2 lowersStart lowersFinish lowersStep followsBody guard
      intro state machine count counts inStep
      rw [Engine.runStatement_eq_runLoop sound.interprets rfl]
      exact followsLoop state machine count counts inStep
  | .whileLoop condition body, bound, loops, lowered, knows, computes, lowers, levels, calls,
      nested, guard => by
      simp only [Statement.computesWith, Bool.and_eq_true] at computes
      simp only [LoweringContext.lowerStatement?, Option.bind_eq_bind,
        Option.bind_eq_some_iff] at lowers
      obtain ⟨lowerCondition, lowersCondition, lowerBody, lowersBody, same⟩ := lowers
      cases same
      have followsBody := follows_block sound knows computes.2 lowersBody levels calls true
        (Machine.bodyGuard nested)
      have lowersTest : LowersTest context (some (.while, condition))
        (some (.while, lowerCondition)) := ⟨rfl, lowersCondition⟩
      have followsLoop := follows_conditionalStatement sound knows lowersTest computes.1 followsBody
        true guard
      intro state machine count counts inStep
      rw [Engine.runStatement_eq_runLoop sound.interprets rfl]
      exact followsLoop state machine count counts inStep
  | .doLoop condition testFirst body, bound, loops, lowered, knows, computes, lowers, levels, calls,
      nested, guard => by
      simp only [Statement.computesWith, Bool.and_eq_true] at computes
      obtain ⟨lowerCondition, lowerBody, lowersTest, lowersBody, rfl⟩ :=
        lowersTest_of_lowerStatement? lowers
      have followsBody := follows_block sound knows computes.2 lowersBody levels calls true
        (Machine.bodyGuard nested)
      have followsLoop := follows_conditionalStatement sound knows lowersTest computes.1 followsBody
        testFirst guard
      intro state machine count counts inStep
      rw [Engine.runStatement_eq_runLoop sound.interprets rfl]
      exact followsLoop state machine count counts inStep
  | .exit kind, bound, loops, lowered, knows, computes, lowers, levels, calls, nested, guard =>
      follows_exit sound computes lowers levels calls nested guard
  | .dim _, _, _, _, _, computes, _, _, _, _, _ | .call _, _, _, _, _, computes, _, _, _, _, _
  | .forEach .., _, _, _, _, computes, _, _, _, _, _
  | .withBlock .., _, _, _, _, computes, _, _, _, _, _
  | .onError _, _, _, _, _, computes, _, _, _, _, _ | .label _, _, _, _, _, computes, _, _, _, _, _
  | .openFile .., _, _, _, _, computes, _, _, _, _, _
  | .writeFile .., _, _, _, _, computes, _, _, _, _, _
  | .closeFiles _, _, _, _, _, computes, _, _, _, _, _
  | .assign (.literal _) _, _, _, _, _, computes, _, _, _, _, _
  | .assign .receiver _, _, _, _, _, computes, _, _, _, _, _
  | .assign (.unary ..) _, _, _, _, _, computes, _, _, _, _, _
  | .assign (.binary ..) _, _, _, _, _, computes, _, _, _, _, _
  | .assign (.member ..) _, _, _, _, _, computes, _, _, _, _, _
  | .assign (.call (.literal _) _) _, _, _, _, _, computes, _, _, _, _, _
  | .assign (.call .receiver _) _, _, _, _, _, computes, _, _, _, _, _
  | .assign (.call (.unary ..) _) _, _, _, _, _, computes, _, _, _, _, _
  | .assign (.call (.binary ..) _) _, _, _, _, _, computes, _, _, _, _, _
  | .assign (.call (.member ..) _) _, _, _, _, _, computes, _, _, _, _, _
  | .assign (.call (.call ..) _) _, _, _, _, _, computes, _, _, _, _, _
  | .assign (.call (.var _) []) _, _, _, _, _, computes, _, _, _, _, _
  | .assign (.call (.var _) (_ :: _ :: _)) _, _, _, _, _, computes, _, _, _, _, _ => by
      simp [Statement.computesWith] at computes

theorem follows_arms (sound : pair.IsSound) :
    ∀ {arms : List Arm} {bound : List String} {loops : List LoopKind} {lowered : List LoopArm},
    pair.Knows context bound → Statement.armsComputeWith pair.terms bound arms = true →
    context.lowerArms? loops arms = some lowered →
    ∀ (levels : Nat) (calls : Machine.Calls) (nested : Bool) (guard : Machine.Guard)
      {otherwise : List Statement} {inOtherwise : State → Option Nat}
      {compiled : Machine Machine.Flow},
      pair.Follows bound [] loops inOtherwise ((Engine.within levels).block otherwise) compiled →
      pair.Follows bound [] loops (Statement.bodiesOfArms? pair.environment levels inOtherwise arms)
        ((Engine.within levels).runBranch otherwise arms)
        (Machine.executeArms calls nested guard compiled lowered)
  | [], bound, loops, lowered, knows, computes, lowers, levels, calls, nested, guard, otherwise,
      inOtherwise, compiled, followsOtherwise => by
      simp only [LoweringContext.lowerArms?, Option.some.injEq] at lowers
      subst lowers
      exact followsOtherwise
  | .mk condition body :: rest, bound, loops, lowered, knows, computes, lowers, levels, calls,
      nested, guard, otherwise, inOtherwise, compiled, followsOtherwise => by
      simp only [Statement.armsComputeWith, Statement.armComputesWith, Bool.and_eq_true] at computes
      simp only [LoweringContext.lowerArms?, LoweringContext.lowerArm?, Option.bind_eq_bind,
        Option.bind_eq_some_iff] at lowers
      obtain ⟨_, ⟨lowerCondition, lowersCondition, lowerBody, lowersBody, sameArm⟩, lowerRest,
        lowersRest, same⟩ := lowers
      cases sameArm
      cases same
      have followsBody := follows_block sound knows computes.1.2 lowersBody levels calls nested guard
      have followsRest := follows_arms sound knows computes.2 lowersRest levels calls nested guard
        followsOtherwise
      intro state machine count counts inStep
      simp only [Statement.bodiesOfArms?, Statement.bodiesOfArm?] at counts
      split at counts
      · rename_i value after found
        have sameValue := findsSame_operand sound knows computes.1.1 lowersCondition inStep found
        have inStepAfter := sameValue.inStep sound inStep
        simp only [Machine.executeArms, Machine.executeArm, Running.run_bind, sameValue.evaluate,
          Running.run_get, Heap.isTruthy_congr sameValue.scalar machine.heap after.heap,
          Engine.runBranch, found, Eval.isTruthy, Running.run_pure]
        split at counts
        · rename_i isTruthy
          rw [if_pos isTruthy, if_pos isTruthy]
          exact followsBody after machine count counts inStepAfter
        · rename_i isFalsy
          rw [if_neg isFalsy, if_neg isFalsy]
          exact followsRest after machine count counts inStepAfter
      · cases counts

theorem follows_block (sound : pair.IsSound) :
    ∀ {statements : List Statement} {bound : List String} {loops : List LoopKind}
      {lowered : List LoopStatement}, pair.Knows context bound →
    Statement.blockComputesWith pair.terms bound statements = true →
    context.lowerBlock? loops statements = some lowered →
    ∀ (levels : Nat) (calls : Machine.Calls) (nested : Bool) (guard : Machine.Guard),
      pair.Follows bound [] loops (Statement.bodiesOfBlock? pair.environment levels statements)
        ((Engine.within levels).block statements)
        (Machine.executeBlock calls nested guard lowered)
  | statements, bound, loops, lowered, knows, computes, lowers, 0, calls, nested, guard => by
      intro state machine count counts
      simp [Statement.bodiesOfBlock?] at counts
  | [], bound, loops, lowered, knows, computes, lowers, levels + 1, calls, nested, guard => by
      intro state machine count counts inStep
      simp only [LoweringContext.lowerBlock?, Option.some.injEq] at lowers
      subst lowers
      cases counts
      exact .inStep .normal inStep rfl
  | statement :: rest, bound, loops, lowered, knows, computes, lowers, levels + 1, calls, nested,
      guard => by
      simp only [Statement.blockComputesWith, Bool.and_eq_true] at computes
      simp only [LoweringContext.lowerBlock?, Option.bind_eq_bind, Option.bind_eq_some_iff] at lowers
      obtain ⟨lowerFirst, lowersFirst, lowerRest, lowersRest, same⟩ := lowers
      cases same
      have followsFirst := follows_statement sound knows computes.1 lowersFirst levels calls nested
        guard
      have knowsMore := knows.gain fun name gained => mem_assigned_of_mem_gains computes.1 gained
      have followsRest := follows_block sound knowsMore computes.2 lowersRest (levels + 1) calls
        nested guard
      exact follows_cons sound followsFirst followsRest

end

end LockStep

end MacroSandbox
