import MacroSandbox.Proofs.CacheGrowth

/-! Runs that share their caches.

A run that is repeated with everything that it left in the caches does the same again, unless a loop
was judged to be endless: such a loop is skipped when it is met first and interpreted afterwards. -/

namespace MacroSandbox

/-! ## Evaluations that do not look at the caches -/

theorem State.caches_of_beside {change : State → State}
    (alike : ∀ state caches sink ticks,
      change (state.beside caches sink ticks) = (change state).beside caches sink ticks)
    (state : State) : (change state).caches = state.caches := by
  rw [show change state = (change state).beside state.caches state.run.sink
    state.run.limiter.ticks from alike state state.caches state.run.sink state.run.limiter.ticks]
  rfl

namespace Eval

variable {α : Type}

/-- An evaluation does the same whatever is remembered, whoever listens and however often the clock
was read, and leaves the caches alone. -/
def ActsAlike (action : Eval α) : Prop :=
  ∀ environment state caches sink ticks, state.run.limiter.deadline = none →
    ∃ otherSink otherTicks,
      action environment (state.beside caches sink ticks) =
        answer (action.outcome environment state)
          ((action.after environment state).beside caches otherSink otherTicks)

theorem modify_actsAlike {change : State → State}
    (alike : ∀ state caches sink ticks,
      change (state.beside caches sink ticks) = (change state).beside caches sink ticks) :
    (MonadState.modifyGet fun state => ((), change state) : Eval Unit).ActsAlike :=
  fun _ state caches sink ticks _ =>
    ⟨sink, ticks, congrArg (EStateM.Result.ok ()) (alike state caches sink ticks)⟩

theorem enterFrame_actsAlike : Engine.enterFrame.ActsAlike := by
  intro environment state caches sink ticks _
  refine ⟨sink, ticks, ?_⟩
  unfold answer outcome after Engine.enterFrame Limiter.enter
  by_cases deep : state.run.limiter.maxDepth < state.run.limiter.depth + 1
  · simp only [State.beside, deep, if_true]
  · simp only [State.beside, deep, if_false]

theorem actsAlike_of_isStep {action : Eval α} (isStep : IsStep action) : action.ActsAlike := by
  intro environment state caches sink ticks untimed
  cases isStep with
  | assign placement type name value =>
      exact ⟨sink, ticks, congrArg (EStateM.Result.ok ())
        (State.assign_beside placement type name value caches sink ticks)⟩
  | onHeap compute _ =>
      refine ⟨sink, ticks, ?_⟩
      unfold answer outcome after onHeap
      dsimp only [State.beside]
      rcases compute state.heap with ⟨_ | _, heap⟩ <;> rfl
  | tick =>
      refine ⟨sink, ticks + 1, ?_⟩
      unfold answer outcome after tick Limiter.tick
      by_cases deep : state.run.limiter.maxDepth < state.run.limiter.depth
      · simp [State.beside, deep]
      · simp [State.beside, deep, Limiter.expired, untimed]
  | check =>
      refine ⟨sink, ticks, ?_⟩
      unfold answer outcome after check
      have same : (state.beside caches sink ticks).run.limiter.check =
          state.run.limiter.check := by
        simp only [Limiter.check, Limiter.expired, State.beside, untimed, Option.any_none]
      rw [same]
      cases state.run.limiter.check <;> rfl
  | report kind value description => exact ⟨_, ticks, rfl⟩
  | closeFile number =>
      have same : (state.beside caches sink ticks).run.files = state.run.files := rfl
      unfold outcome after closeFile
      simp only [Running.run_bind, Running.run_get, same]
      cases state.run.files.close? number with
      | none => exact ⟨sink, ticks, rfl⟩
      | some closed => exact ⟨_, ticks, rfl⟩
  | _ => exact ⟨sink, ticks, rfl⟩

end Eval

/-! ## Repeated evaluations -/

/-- The second state differs from the first one in what stands beside it only, and knows what is to
be remembered. -/
structure State.Repeats (known : Caches) (first second : State) : Prop where
  resembles : second = first.beside second.caches second.run.sink second.run.limiter.ticks
  constants : second.caches.constants = known.constants
  loops : second.caches.loops = known.loops

theorem State.Repeats.changed {known : Caches} {one two : State} (same : one.Repeats known two)
    (change : State → State)
    (alike : ∀ state caches sink ticks,
      change (state.beside caches sink ticks) = (change state).beside caches sink ticks)
    {caches later : Caches} {sink laterSink : Option (Array Action)} {ticks laterTicks : UInt64}
    (constants : later.constants = known.constants) (loops : later.loops = known.loops) :
    ((change one).beside caches sink ticks).Repeats known
      ((change two).beside later laterSink laterTicks) := by
  refine ⟨?_, constants, loops⟩
  rw [same.resembles, alike]
  rfl

namespace Eval

variable {α β : Type} {known : Caches}

/-- An evaluation comes to an end by itself, and everything that it leaves in the caches is known. -/
structure IsRecorded (known : Caches) (action : Eval α) (environment : Environment) (state : State) :
    Prop where
  untimed : state.run.limiter.deadline = none
  computed : state.caches.AreComputed fun _ => True
  ordinary : ∀ stop, action.outcome environment state = .error stop → stop.isFinal = false
  remembered : (action.after environment state).caches.Grow known

structure Repeats (known : Caches) (action : Eval α) : Prop where
  grows : action.Leads State.Grows
  again : ∀ environment first second, first.Repeats known second →
    action.IsRecorded known environment first →
    ∃ after, action environment second = answer (action.outcome environment first) after ∧
      (action.after environment first).Repeats known after

namespace Repeats

theorem of_actsAlike {action : Eval α} (grows : action.Leads State.Grows)
    (alike : action.ActsAlike) : action.Repeats known := by
  refine ⟨grows, fun environment first second repeats recorded => ?_⟩
  rcases alike environment first second.caches second.run.sink second.run.limiter.ticks
    recorded.untimed with ⟨sink, ticks, ended⟩
  rw [← repeats.resembles] at ended
  exact ⟨_, ended, rfl, repeats.constants, repeats.loops⟩

theorem step {action : Eval α} (isStep : IsStep action) : action.Repeats known :=
  .of_actsAlike (grows_of_isStep isStep) (actsAlike_of_isStep isStep)

theorem report (kind value description : String) :
    (Eval.report kind value description).Repeats known :=
  .of_actsAlike (fun _ _ => .of_same rfl rfl) fun _ _ _ _ ticks _ => ⟨_, ticks, rfl⟩

theorem pure (value : α) : (Pure.pure value : Eval α).Repeats known :=
  .of_actsAlike (.pure State.Grows.isPreorder value) fun _ _ _ sink ticks _ => ⟨sink, ticks, rfl⟩

theorem bind {first : Eval α} {next : α → Eval β} (firstRepeats : first.Repeats known)
    (nextRepeats : ∀ value, (next value).Repeats known) : (first >>= next).Repeats known := by
  refine ⟨.bind State.Grows.isPreorder firstRepeats.grows fun value => (nextRepeats value).grows,
    fun environment one two repeats recorded => ?_⟩
  have grown := firstRepeats.grows environment one
  have ordinary := recorded.ordinary
  have remembered := recorded.remembered
  rw [outcome_bind] at ordinary
  rw [after_bind] at remembered
  rw [outcome_bind, after_bind, Running.run_bind]
  cases ran : first environment one with
  | error stop middle =>
      rw [ran] at ordinary remembered
      have recordedFirst : first.IsRecorded known environment one :=
        { recorded with
          ordinary := by
            rw [outcome_of_error ran]
            rintro _ ⟨⟩
            exact ordinary stop rfl
          remembered := by
            rw [after_of_error ran]
            exact remembered }
      rcases firstRepeats.again environment one two repeats recordedFirst with
        ⟨after, ended, repeated⟩
      rw [outcome_of_error ran] at ended
      rw [after_of_error ran] at repeated
      rw [ended]
      exact ⟨after, rfl, repeated⟩
  | ok value middle =>
      rw [ran] at ordinary remembered
      rw [after_of_ok ran] at grown
      -- What the first part remembers is known at the end, because the second part only adds to it.
      have nextGrown := (nextRepeats value).grows environment middle
      have recordedFirst : first.IsRecorded known environment one :=
        { recorded with
          ordinary := by
            rw [outcome_of_ok ran]
            rintro _ ⟨⟩
          remembered := by
            rw [after_of_ok ran]
            exact nextGrown.caches.trans remembered }
      have recordedNext : (next value).IsRecorded known environment middle :=
        { untimed := grown.deadline.trans recorded.untimed
          computed := grown.computed recorded.computed
          ordinary
          remembered }
      rcases firstRepeats.again environment one two repeats recordedFirst with
        ⟨between, ended, repeated⟩
      rw [outcome_of_ok ran] at ended
      rw [after_of_ok ran] at repeated
      rw [ended]
      exact (nextRepeats value).again environment middle between repeated recordedNext

theorem observe {next : State → Eval α} (blind : ∀ state, next state = next state.visible)
    (repeats : ∀ state, (next state).Repeats known) : (get >>= next).Repeats known := by
  refine ⟨.observe fun state => (repeats state).grows,
    fun environment one two same recorded => ?_⟩
  have sameNext : next two = next one := by
    rw [blind two, same.resembles, blind one]
    rfl
  have again := (repeats one).again environment one two same
    ⟨recorded.untimed, recorded.computed, recorded.ordinary, recorded.remembered⟩
  rw [Running.run_bind, Running.run_get]
  dsimp only
  rw [sameNext]
  exact again

theorem attempt {action : Eval α} (repeats : action.Repeats known) :
    (Eval.attempt action).Repeats known := by
  refine ⟨.attempt repeats.grows, fun environment one two same recorded => ?_⟩
  have ordinary := recorded.ordinary
  have remembered := recorded.remembered
  rw [outcome_attempt] at ordinary
  rw [after_attempt] at remembered
  have recordedInside : action.IsRecorded known environment one :=
    { recorded with
      ordinary := by
        intro stop interrupted
        cases isFinal : stop.isFinal with
        | false => rfl
        | true =>
            rw [interrupted, absorbed_of_isFinal isFinal] at ordinary
            exact isFinal.symm.trans (ordinary stop rfl)
      remembered }
  rcases repeats.again environment one two same recordedInside with ⟨after, ended, repeated⟩
  refine ⟨after, ?_, ?_⟩
  · rw [attempt_eq, outcome_of_answer ended, after_of_answer ended, outcome_attempt]
  · rw [after_attempt]
    exact repeated

theorem modify (change : State → State)
    (alike : ∀ state caches sink ticks,
      change (state.beside caches sink ticks) = (change state).beside caches sink ticks)
    (sameDeadline : ∀ state, (change state).run.limiter.deadline = state.run.limiter.deadline) :
    (MonadState.modifyGet fun state => ((), change state) : Eval Unit).Repeats known :=
  .of_actsAlike (modify_grows (State.caches_of_beside alike) sameDeadline) (modify_actsAlike alike)

theorem afterwards {action : Eval α} (change : State → State)
    (alike : ∀ state caches sink ticks,
      change (state.beside caches sink ticks) = (change state).beside caches sink ticks)
    (sameDeadline : ∀ state, (change state).run.limiter.deadline = state.run.limiter.deadline)
    (repeats : action.Repeats known) : (Eval.afterwards action change).Repeats known := by
  have sameCaches := State.caches_of_beside alike
  refine ⟨.afterwards State.Grows.isPreorder repeats.grows fun state =>
    .of_same (sameCaches state) (sameDeadline state), fun environment one two same recorded => ?_⟩
  have ordinary := recorded.ordinary
  have remembered := recorded.remembered
  rw [outcome_afterwards] at ordinary
  rw [after_afterwards, sameCaches] at remembered
  have recordedInside : action.IsRecorded known environment one :=
    { recorded with ordinary, remembered }
  rcases repeats.again environment one two same recordedInside with ⟨after, ended, repeated⟩
  refine ⟨change after, ?_, ?_⟩
  · rw [afterwards_eq, outcome_of_answer ended, after_of_answer ended, outcome_afterwards]
  · rw [after_afterwards]
    have changed := alike (action.after environment one) after.caches after.run.sink
      after.run.limiter.ticks
    rw [← repeated.resembles] at changed
    rw [changed]
    exact ⟨rfl, repeated.constants, repeated.loops⟩

end Repeats

theorem receiverValue?_repeats {engine : Engine}
    (repeats : ∀ object, (engine.node object).Repeats known) :
    engine.receiverValue?.Repeats known := by
  refine .observe (fun _ => rfl) fun state => ?_
  dsimp only
  split
  · exact .pure _
  · split
    · exact .pure _
    · exact .bind (.modify withoutReceiver (fun _ _ _ _ => rfl) fun _ => rfl) fun _ =>
        .bind (.afterwards (Engine.putBack _) (fun _ _ _ _ => rfl) (fun _ => rfl)
          (.attempt (repeats _))) fun _ =>
        .bind (.modify _ (fun _ _ _ _ => rfl) fun _ => rfl) fun _ => .pure _

theorem callProcedure_repeats {engine : Engine} {procedure : Procedure} {arguments : List Value}
    (repeats : (engine.runInFrame procedure arguments).Repeats known) :
    (engine.callProcedure procedure arguments).Repeats known := by
  refine .observe (fun _ => rfl) fun state =>
    .bind (.of_actsAlike enterFrame_grows enterFrame_actsAlike) fun _ =>
    .bind (.afterwards (Engine.backInFrame state.frame) (fun _ _ _ _ => rfl) (fun _ => rfl)
      repeats) fun result => ?_
  dsimp only
  split
  · exact .bind (.step .raisePending) fun _ => .pure _
  · exact .pure _

end Eval

/-! ## Steps that look at the caches -/

/-- No loop was judged to be endless, and no constant expression fails whose text is remembered. -/
structure Caches.IsSteady (known : Caches) : Prop where
  noEndless : ∀ text, known.loops.get? text ≠ some .endless
  computes : ∀ expression : Expr, expression.isNumeral = true →
    (known.constants.get? (expression.render {})).isSome = true →
    ∃ value, expression.computed = .ok value

theorem Caches.isSteady_of_loops {known : Caches} (constants : known.constants.isEmpty = true)
    (loops : known.loops.toList.all (fun (_, entry) => !(entry matches .endless)) = true) :
    known.IsSteady where
  noEndless := by
    intro text found
    rw [Std.TreeMap.get?_eq_getElem?] at found
    have isDone := List.all_eq_true.1 loops (text, .endless)
      (Std.TreeMap.mem_toList_iff_getElem?_eq_some.2 found)
    cases isDone
  computes := by
    intro expression _ found
    rw [Std.TreeMap.get?_eq_getElem?, Std.TreeMap.getElem?_of_isEmpty constants] at found
    cases found

theorem Caches.IsSteady.unknown {known : Caches} (steady : known.IsSteady) {expression : Expr}
    (isNumeral : expression.isNumeral = true) {fault : Fault}
    (fails : expression.computed = .error fault) :
    known.constants.get? (expression.render {}) = none := by
  cases found : known.constants.get? (expression.render {}) with
  | none => rfl
  | some value =>
      rcases steady.computes expression isNumeral (by rw [found]; rfl) with ⟨computed, isValue⟩
      cases fails.symm.trans isValue

def State.asking (state : State) (expression : Expr) : State :=
  { state with caches := (state.caches.constant? (expression.render {})).2 }

theorem State.constants_asking (state : State) (expression : Expr) :
    (state.asking expression).caches.constants = state.caches.constants :=
  state.caches.constants_constant? (expression.render {})

theorem State.Repeats.asking {known : Caches} {one two : State} (same : one.Repeats known two)
    (expression : Expr) : (one.asking expression).Repeats known (two.asking expression) :=
  same.changed id (fun _ _ _ _ => rfl) ((two.constants_asking expression).trans same.constants)
    ((two.caches.loops_constant? (expression.render {})).trans same.loops)

theorem State.Repeats.lowers {known : Caches} {one two : State} (same : one.Repeats known two)
    {environment : Environment} {loop : Statement} {lowered : Lowered}
    (lowers : one.Lowers environment loop lowered) : two.Lowers environment loop lowered := by
  rw [same.resembles]
  exact ⟨lowers.isStatic, lowers.lowers⟩

theorem State.Repeats.get?_loops {known : Caches} {one two : State} (same : one.Repeats known two)
    (program : LoopProgram) :
    two.caches.loops.get? (program.render two.heap) =
      known.loops.get? (program.render one.heap) := by
  rw [same.loops, same.resembles]
  rfl

namespace Eval

variable {known : Caches}

section

variable {environment : Environment} {state one two : State} {levels : Nat} {expression : Expr}
  {engine : Engine}

theorem constantValue_of_found (isNumeral : expression.isNumeral = true) {value : Value}
    (found : state.caches.constants.get? (expression.render {}) = some value) :
    engine.constantValue expression environment state = .ok value (state.asking expression) := by
  rw [Engine.constantValue_eq engine isNumeral, found]
  rfl

theorem constantValue_of_missed (isNumeral : expression.isNumeral = true)
    (missed : state.caches.constants.get? (expression.render {}) = none) :
    engine.constantValue expression environment state =
      match engine.nodeValue expression environment (state.asking expression) with
      | .ok value after =>
          .ok value
            { after with caches := after.caches.storeConstant (expression.render {}) value }
      | .error stop after => .error stop after := by
  rw [Engine.constantValue_eq engine isNumeral, missed]
  rfl

theorem constantValue_of_known (isNumeral : expression.isNumeral = true)
    (same : one.Repeats known two) {value : Value} {caches : Caches} {ticks : UInt64}
    (ended : engine.constantValue expression environment one =
      .ok value (one.beside caches one.run.sink ticks))
    (isKnown : known.constants.get? (expression.render {}) = some value) :
    ∃ after, engine.constantValue expression environment two =
        answer ((engine.constantValue expression).outcome environment one) after ∧
      ((engine.constantValue expression).after environment one).Repeats known after := by
  have found : two.caches.constants.get? (expression.render {}) = some value := by
    rw [same.constants]
    exact isKnown
  rw [outcome_of_ok ended, after_of_ok ended]
  have asked := same.asking expression
  exact ⟨two.asking expression, constantValue_of_found isNumeral found, asked.resembles,
    asked.constants, asked.loops⟩

theorem constantValue_of_unknown (isNumeral : expression.isNumeral = true)
    (node : (engine.nodeValue expression).Repeats known) (same : one.Repeats known two)
    (recorded : (engine.constantValue expression).IsRecorded known environment one)
    {stop : Interruption} {left : State}
    (ran : engine.nodeValue expression environment (one.asking expression) = .error stop left)
    (missed : one.caches.constants.get? (expression.render {}) = none)
    (unknown : known.constants.get? (expression.render {}) = none) :
    ∃ after, engine.constantValue expression environment two =
        answer ((engine.constantValue expression).outcome environment one) after ∧
      ((engine.constantValue expression).after environment one).Repeats known after := by
  have ranOne : engine.constantValue expression environment one = .error stop left := by
    rw [constantValue_of_missed isNumeral missed, ran]
  have ordinary := recorded.ordinary
  have remembered := recorded.remembered
  rw [outcome_of_error ranOne] at ordinary
  rw [after_of_error ranOne] at remembered
  have recordedNode :
      (engine.nodeValue expression).IsRecorded known environment (one.asking expression) :=
    { untimed := recorded.untimed
      computed := recorded.computed.constant? (expression.render {})
      ordinary := by
        rw [outcome_of_error ran]
        exact ordinary
      remembered := by
        rw [after_of_error ran]
        exact remembered }
  rcases node.again environment _ _ (same.asking expression) recordedNode with
    ⟨after, ended, repeated⟩
  rw [outcome_of_error ran] at ended
  rw [after_of_error ran] at repeated
  rw [outcome_of_error ranOne, after_of_error ranOne]
  refine ⟨after, ?_, repeated⟩
  -- The expression failed, so it was not remembered and is computed again.
  have missedAgain : two.caches.constants.get? (expression.render {}) = none := by
    rw [same.constants]
    exact unknown
  rw [constantValue_of_missed isNumeral missedAgain, ended]
  rfl

theorem constantValue_repeats (steady : known.IsSteady) (isConstant : expression.isConstant = true)
    (node : ((Engine.within levels).nodeValue expression).Repeats known) :
    ((Engine.within levels).constantValue expression).Repeats known := by
  refine ⟨constantValue_grows isConstant node.grows, fun environment one two same recorded => ?_⟩
  have isNumeral := Expr.isNumeral_of_isConstant isConstant
  have remembered := recorded.remembered
  cases found : one.caches.constants.get? (expression.render {}) with
  | some value =>
      have ran : (Engine.within levels).constantValue expression environment one =
          .ok value (one.asking expression) :=
        constantValue_of_found isNumeral found
      rw [after_of_ok ran] at remembered
      refine constantValue_of_known isNumeral same ran (remembered.constants _ _ ?_)
      rw [State.constants_asking]
      exact found
  | none =>
      rcases @Engine.nodeValue_isAnswered _ environment expression isConstant (fun _ _ => trivial)
        levels (one.asking expression) (recorded.computed.constant? (expression.render {})) with
        ⟨ended, caches, ticks, isAnswer, _, agrees, ran⟩
      have ranOne := @constantValue_of_missed environment one expression (Engine.within levels)
        isNumeral found
      rw [ran] at ranOne
      cases ended with
      | ok value =>
          rcases isAnswer with ⟨other, like, isValue⟩ | ⟨_, _, _, impossible⟩
          · have isNumeric := Expr.isNumeric_of_computed like.isNumeral
              (Expr.eq_ok_of_mapError isValue.symm)
            -- While a node is evaluated, only shorter expressions are remembered.
            have unknown : caches.constants.get? (expression.render {}) = none := by
              rw [agrees _ (Nat.le_refl _), State.constants_asking]
              exact found
            rw [after_of_ok ranOne] at remembered
            exact constantValue_of_known isNumeral same ranOne
              (remembered.constants _ _ (Caches.get?_storeConstant isNumeric unknown))
          · cases impossible
      | error stop =>
          refine constantValue_of_unknown isNumeral node same recorded ran found ?_
          -- Steady caches hold no expression that fails, and a final fault is ruled out.
          rcases isAnswer with ⟨other, like, fails⟩ | ⟨_, _, isFinal, ⟨⟩⟩
          · rcases Expr.exists_error_of_mapError fails.symm with ⟨fault, fails⟩
            rw [← like.sameText isNumeral]
            exact steady.unknown like.isNumeral fails
          · have ordinary := recorded.ordinary _ (outcome_of_error ranOne)
            rw [isFinal] at ordinary
            cases ordinary

end

section

variable {environment : Environment} {one two : State} {loop : Statement} {lowered : Lowered}

theorem offerLoop_of_result (lowers : one.Lowers environment loop lowered)
    (same : one.Repeats known two) {result : LoopResult}
    (isKnown : known.loops.get? (lowered.program.render one.heap) = some (.done result)) :
    ∃ after, offerLoop loop environment two = .ok .reused after ∧
      ∀ caches sink ticks,
        ((one.mergeResult environment result lowered.certain).beside caches sink ticks).Repeats known
          after := by
  rw [← same.get?_loops] at isKnown
  refine ⟨(two.mergeResult environment result lowered.certain).beside
    (two.caches.loop? (lowered.program.render two.heap)).2 two.run.sink two.run.limiter.ticks,
    ?_, fun caches sink ticks => ?_⟩
  · rw [offerLoop_eq (same.lowers lowers)]
    dsimp only
    rw [isKnown, ← State.mergeResult_beside]
  · exact same.changed (·.mergeResult environment result lowered.certain)
      (fun state => state.mergeResult_beside result lowered.certain)
      ((Caches.constants_loop? _ _).trans same.constants)
      ((Caches.loops_loop? _ _).trans same.loops)

theorem offerLoop_of_failure (lowers : one.Lowers environment loop lowered)
    (same : one.Repeats known two) {entry : CachedLoop}
    (isKnown : known.loops.get? (lowered.program.render one.heap) = some entry)
    (without : entry = .failed ∨ entry = .endless) :
    ∃ after, offerLoop loop environment two = .ok .failedBefore after ∧
      ∀ caches sink ticks, (one.beside caches sink ticks).Repeats known after := by
  rw [← same.get?_loops] at isKnown
  refine ⟨two.beside (two.caches.loop? (lowered.program.render two.heap)).2 two.run.sink
    two.run.limiter.ticks, ?_, fun caches sink ticks => ?_⟩
  · rw [offerLoop_eq (same.lowers lowers)]
    dsimp only
    rw [isKnown]
    rcases without with rfl | rfl <;> rfl
  · exact same.changed id (fun _ _ _ _ => rfl)
      ((Caches.constants_loop? _ _).trans same.constants)
      ((Caches.loops_loop? _ _).trans same.loops)

theorem compileLoop_of_offerLoop {state after : State} {outcome : LoopOutcome}
    (offered : offerLoop loop environment state = .ok outcome after) :
    compileLoop loop environment state = .ok outcome.isSettled after := by
  unfold compileLoop
  rw [Running.run_bind, offered]
  rfl

/-- An offer that is made again is answered alike, unless the loop was judged to be endless. -/
theorem offerLoop_again (steady : known.IsSteady) (same : one.Repeats known two)
    {outcome : LoopOutcome} {left : State}
    (offered : Offered environment one loop (.ok outcome left))
    (remembered : left.caches.Grow known) :
    ∃ later after, offerLoop loop environment two = .ok later after ∧
      later.isSettled = outcome.isSettled ∧ left.Repeats known after := by
  have sameHeap : two.heap = one.heap := by
    rw [same.resembles]
    rfl
  have sameCaller : two.caller environment = one.caller environment := by
    rw [same.resembles]
    rfl
  have asked (program : String) {entry : CachedLoop}
      (found : one.caches.loops.get? program = some entry) :
      (one.caches.loop? program).2.loops.get? program = some entry := by
    rw [Caches.loops_loop?]
    exact found
  have stored (program : String) (entry : CachedLoop) :
      ((one.caches.loop? program).2.storeLoop program entry).loops.get? program = some entry :=
    Std.TreeMap.getElem?_insert_self
  cases offered with
  | dynamic isDynamic =>
      rw [← sameHeap] at isDynamic
      exact ⟨_, _, offerLoop_of_dynamic isDynamic, rfl, same⟩
  | refused isStatic refuses =>
      rw [← sameHeap] at isStatic
      rw [← sameCaller] at refuses
      exact ⟨_, _, offerLoop_of_refused isStatic refuses, rfl, same⟩
  | reused lowers found =>
      rcases offerLoop_of_result lowers same (remembered.loops _ _ (asked _ found)) with
        ⟨after, again, repeated⟩
      exact ⟨_, after, again, rfl, repeated _ _ _⟩
  | failedBefore lowers found without =>
      rcases offerLoop_of_failure lowers same (remembered.loops _ _ (asked _ found)) without with
        ⟨after, again, repeated⟩
      exact ⟨_, after, again, rfl, repeated _ _ _⟩
  | completed ticks lowers _ _ =>
      rcases offerLoop_of_result lowers same (remembered.loops _ _ (stored _ _)) with
        ⟨after, again, repeated⟩
      exact ⟨_, after, again, rfl, repeated _ _ _⟩
  | failed ticks lowers _ _ =>
      rcases offerLoop_of_failure lowers same (remembered.loops _ _ (stored _ _)) (.inl rfl) with
        ⟨after, again, repeated⟩
      exact ⟨_, after, again, rfl, repeated _ _ _⟩
  | endless ticks lowers _ _ =>
      exact absurd (remembered.loops _ _ (stored _ _)) (steady.noEndless _)

theorem compileLoop_repeats (steady : known.IsSteady) (loop : Statement) :
    (compileLoop loop).Repeats known := by
  have order := State.Grows.isPreorder
  refine ⟨.bind order (offerLoop_grows loop) fun _ => .pure order _,
    fun environment one two same recorded => ?_⟩
  have offered := offerLoop_offered environment one loop
  cases ran : offerLoop loop environment one with
  | error stop left =>
      have interrupted : compileLoop loop environment one = .error stop left := by
        unfold compileLoop
        rw [Running.run_bind, ran]
      have ordinary := recorded.ordinary stop (outcome_of_error interrupted)
      rw [ran] at offered
      cases offered with
      | fatal ticks _ faulted =>
          cases ordinary.symm.trans (Machine.isFatal_of_run faulted)
  | ok outcome left =>
      have settled := compileLoop_of_offerLoop ran
      have remembered := recorded.remembered
      rw [after_of_ok settled] at remembered
      rw [ran] at offered
      rcases offerLoop_again steady same offered remembered with
        ⟨later, after, again, sameAnswer, repeated⟩
      rw [outcome_of_ok settled, after_of_ok settled, ← sameAnswer]
      exact ⟨after, compileLoop_of_offerLoop again, repeated⟩

end

theorem IsComposed.repeats {α : Type} (steady : known.IsSteady) {role : ErrorRole} {action : Eval α}
    (composed : action.IsComposed role) : action.Repeats known := by
  induction composed with
  | pure value => exact .pure value
  | read =>
      exact .of_actsAlike (fun _ _ => .of_same rfl rfl) fun _ _ _ sink ticks _ => ⟨sink, ticks, rfl⟩
  | bind _ _ repeatsFirst repeatsNext => exact .bind repeatsFirst repeatsNext
  | observe blind _ repeats => exact .observe blind repeats
  | step isStep => exact .step isStep
  | errorStep isStep => cases isStep <;> exact .modify _ (fun _ _ _ _ => rfl) fun _ => rfl
  | attempt _ repeats => exact .attempt repeats
  | withBlock object _ repeats =>
      exact .bind (.modify _ (fun _ _ _ _ => rfl) fun _ => rfl) fun _ =>
        .afterwards withoutReceiver (fun _ _ _ _ => rfl) (fun _ => rfl) repeats
  | receiver _ repeats => exact receiverValue?_repeats repeats
  | call _ repeats => exact callProcedure_repeats repeats
  | constant isConstant _ repeats => exact constantValue_repeats steady isConstant repeats
  | compileLoop loop => exact compileLoop_repeats steady loop

theorem IsComposed.grows {α : Type} {role : ErrorRole} {action : Eval α}
    (composed : action.IsComposed role) : action.Leads State.Grows := by
  have steady : ({} : Caches).IsSteady := Caches.isSteady_of_loops rfl rfl
  exact (composed.repeats steady).grows

end Eval

/-! ## Repeated runs -/

namespace Module

variable {known : Caches}

theorem runEntries_repeats (steady : known.IsSteady) (kind : String)
    (procedures : List Procedure) : (runEntries kind procedures).Repeats known := by
  induction procedures with
  | nil => exact .pure ()
  | cons procedure rest induction =>
      apply Eval.Repeats.bind (.report kind procedure.name "")
      intro _
      apply Eval.Repeats.bind (Eval.IsComposed.repeats steady (runEntry_isComposed procedure []))
      intro _
      exact induction

theorem runAll_repeats (steady : known.IsSteady) (source : Module) :
    source.runAll.Repeats known := by
  have reported (ran : List Procedure) : Eval.Repeats known (do
      return Report.ofRun (← get).run (ran.map (·.name)) : Eval Report) :=
    .observe (fun _ => rfl) fun _ => .pure _
  apply Eval.Repeats.bind (Eval.IsComposed.repeats steady source.load_isComposed)
  intro _
  dsimp only
  split
  · apply Eval.Repeats.bind (runEntries_repeats steady _ _)
    intro _
    exact .bind (.pure _) reported
  · apply Eval.Repeats.bind (runEntries_repeats steady _ _)
    intro _
    exact .bind (.pure _) reported

end Module

namespace Emulator

def start (emulator : Emulator) : State :=
  State.start emulator.runEnvironment emulator.sink emulator.heap emulator.caches

theorem run_eq (emulator : Emulator) :
    emulator.run =
      (emulator.source.runAll.outcome emulator.runEnvironment emulator.start,
        let after := emulator.source.runAll.after emulator.runEnvironment emulator.start
        { emulator with
          heap := after.heap.release emulator.heap
          caches := after.caches
          sink := after.run.sink }) := by
  unfold run performRun perform Eval.outcome Eval.after start
  dsimp only
  cases emulator.source.runAll emulator.runEnvironment
    (State.start emulator.runEnvironment emulator.sink emulator.heap emulator.caches) <;> rfl

inductive Repeats (known : Caches) (emulator : Emulator) : Emulator → Prop
  | mk {caches : Caches} (sink : Option (Array Action))
      (constants : caches.constants = known.constants) (loops : caches.loops = known.loops) :
      Repeats known emulator { emulator with caches, sink }

/-- A run that gives a report in time, and leaves the containers alone that stand in the module. -/
structure Reports (emulator : Emulator) (report : Report) : Prop where
  untimed : emulator.start.run.limiter.deadline = none
  computed : emulator.caches.AreComputed fun _ => True
  reported : emulator.run.1 = .ok report
  sameHeap : emulator.run.2.heap = emulator.heap

variable {emulator later : Emulator} {report : Report}

theorem Reports.isRecorded (reports : emulator.Reports report) :
    emulator.source.runAll.IsRecorded emulator.run.2.caches emulator.runEnvironment
      emulator.start where
  untimed := reports.untimed
  computed := reports.computed
  ordinary := by
    have reported := reports.reported
    rw [run_eq] at reported
    rw [show emulator.source.runAll.outcome _ _ = _ from reported]
    rintro _ ⟨⟩
  remembered := by
    rw [run_eq]
    exact .of_same rfl rfl

theorem Reports.repeats (reports : emulator.Reports report) :
    emulator.Repeats emulator.run.2.caches emulator.run.2 := by
  have resembles : emulator.run.2 =
      { emulator with caches := emulator.run.2.caches, sink := emulator.run.2.sink } := by
    have sameHeap := reports.sameHeap
    rw [run_eq] at sameHeap ⊢
    dsimp only at sameHeap ⊢
    rw [sameHeap]
  rw [resembles]
  exact .mk _ rfl rfl

theorem Reports.again (reports : emulator.Reports report) (steady : emulator.run.2.caches.IsSteady)
    (repeats : emulator.Repeats emulator.run.2.caches later) :
    later.run.1 = .ok report ∧ emulator.Repeats emulator.run.2.caches later.run.2 := by
  have reported := reports.reported
  have sameHeap := reports.sameHeap
  rw [run_eq] at reported sameHeap
  cases repeats with
  | @mk caches sink constants loops =>
      let later : Emulator := { emulator with caches, sink }
      rcases (emulator.source.runAll_repeats steady).again
        emulator.runEnvironment emulator.start later.start ⟨rfl, constants, loops⟩
        reports.isRecorded with ⟨after, ended, repeated⟩
      have outcomeAgain : later.source.runAll.outcome later.runEnvironment later.start =
          .ok report :=
        (Eval.outcome_of_answer ended).trans reported
      have afterAgain : later.source.runAll.after later.runEnvironment later.start = after :=
        Eval.after_of_answer ended
      have releasedAgain : after.heap.release emulator.heap = emulator.heap := by
        rw [repeated.resembles]
        exact sameHeap
      rw [run_eq later]
      dsimp only
      rw [outcomeAgain, afterAgain, releasedAgain]
      exact ⟨rfl, .mk _ repeated.constants repeated.loops⟩

end Emulator

end MacroSandbox
