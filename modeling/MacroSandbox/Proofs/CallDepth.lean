import MacroSandbox.Proofs.Evolution

/-! How deep calls nest.

A call is counted when it is entered and no longer counted when it is left, however it ends, so
every evaluation ends at the depth that it starts at. Below the limit only the first call beyond it
is refused, in compiled loops as in interpreted ones. -/

namespace MacroSandbox

/-! ## Balance -/

structure State.KeepsDepth (before after : State) : Prop where
  depth : after.run.limiter.depth = before.run.limiter.depth
  maxDepth : after.run.limiter.maxDepth = before.run.limiter.maxDepth

namespace State

variable {before after : State}

theorem KeepsDepth.isPreorder : IsPreorder KeepsDepth where
  refl := fun _ => ⟨rfl, rfl⟩
  trans := fun left right => ⟨right.depth.trans left.depth, right.maxDepth.trans left.maxDepth⟩

theorem KeepsDepth.exhausts (keeps : before.KeepsDepth after) {fault : Fault}
    (exhausts : fault.Exhausts after.run.limiter) : fault.Exhausts before.run.limiter := by
  unfold Fault.Exhausts at exhausts
  rw [keeps.depth, keeps.maxDepth] at exhausts
  exact exhausts

theorem Evolves.keepsDepth {role : ErrorRole} (evolves : before.Evolves role after) :
    before.KeepsDepth after := by
  induction evolves with
  | freely same => exact ⟨congrArg Account.depth same, congrArg Account.maxDepth same⟩
  | trans _ _ left right => exact KeepsDepth.isPreorder.trans left right
  | withBlock _ _ inside => exact ⟨inside.depth, inside.maxDepth⟩
  | receiver _ _ _ _ outside => exact ⟨outside.depth, outside.maxDepth⟩
  | @call _ state after limiter enters _ inside =>
      obtain ⟨rfl, -⟩ := Limiter.eq_of_enter enters
      refine ⟨?_, inside.maxDepth⟩
      show after.run.limiter.depth - 1 = state.run.limiter.depth
      rw [inside.depth]
      exact Nat.add_sub_cancel _ 1
  | _ => exact ⟨rfl, rfl⟩

end State

theorem Eval.IsComposed.keepsDepth {α : Type} {role : ErrorRole} {action : Eval α}
    (composed : action.IsComposed role) : action.Leads State.KeepsDepth :=
  fun environment state => (composed.evolves environment state).keepsDepth

/-! ## Bounds -/

namespace Eval

variable {α β : Type} {role : ErrorRole}

/-- The fatal faults of an evaluation say that a resource is used up, of those that it starts with. -/
def Exhausts (action : Eval α) : Prop :=
  ∀ environment state fault, action.outcome environment state = .error (.fault fault) →
    fault.isFatal = true → fault.Exhausts state.run.limiter

namespace Exhausts

theorem of_ok {action : Eval α}
    (ends : ∀ environment state, ∃ value after, action environment state = .ok value after) :
    action.Exhausts := by
  intro environment state fault ended
  obtain ⟨value, after, ran⟩ := ends environment state
  rw [outcome_of_ok ran] at ended
  cases ended

theorem modify (change : State → State) :
    (MonadState.modifyGet fun state => ((), change state) : Eval Unit).Exhausts :=
  of_ok fun _ state => ⟨(), change state, rfl⟩

theorem pure (value : α) : (Pure.pure value : Eval α).Exhausts :=
  of_ok fun _ state => ⟨value, state, rfl⟩

theorem bind {first : Eval α} {next : α → Eval β} (keeps : first.Leads State.KeepsDepth)
    (exhaustsFirst : first.Exhausts) (exhaustsNext : ∀ value, (next value).Exhausts) :
    (first >>= next).Exhausts := by
  intro environment state fault ended isFatal
  rw [outcome_bind] at ended
  cases ran : first environment state with
  | error stop middle =>
      rw [ran] at ended
      cases ended
      exact exhaustsFirst environment state fault (outcome_of_error ran) isFatal
  | ok value middle =>
      rw [ran] at ended
      have between := keeps environment state
      rw [after_of_ok ran] at between
      exact between.exhausts (exhaustsNext value environment middle fault ended isFatal)

theorem observe {next : State → Eval α} (exhausts : ∀ state, (next state).Exhausts) :
    (get >>= next).Exhausts :=
  fun environment state => exhausts state environment state

theorem attempt {action : Eval α} (exhausts : action.Exhausts) :
    (Eval.attempt action).Exhausts := by
  intro environment state fault ended isFatal
  rw [outcome_attempt] at ended
  unfold absorbed at ended
  split at ended
  · cases ended
  · rename_i cause raised
    split at ended
    · cases ended
      exact exhausts environment state fault raised isFatal
    · cases ended
  · cases ended

theorem afterwards {action : Eval α} (exhausts : action.Exhausts) (change : State → State) :
    (Eval.afterwards action change).Exhausts := by
  intro environment state fault ended
  rw [outcome_afterwards] at ended
  exact exhausts environment state fault ended

end Exhausts

/-! ### Steps -/

section

variable (environment : Environment) (state : State)

theorem outcome_tick :
    tick.outcome environment state = state.run.limiter.tick.1.mapError .fault := by
  unfold outcome tick
  dsimp only
  cases state.run.limiter.tick.1 <;> rfl

theorem outcome_check :
    check.outcome environment state = state.run.limiter.check.mapError .fault := by
  unfold outcome check
  cases state.run.limiter.check <;> rfl

theorem outcome_onHeap (compute : Heap → Except Fault α × Heap) :
    (onHeap compute).outcome environment state = (compute state.heap).1.mapError .fault := by
  unfold outcome onHeap
  dsimp only
  rcases compute state.heap with ⟨_ | _, heap⟩ <;> rfl

end

theorem error_of_mapError {outcome : Except Fault α} {fault : Fault}
    (ended : outcome.mapError Interruption.fault = .error (.fault fault)) :
    outcome = .error fault := by
  cases outcome with
  | ok value => cases ended
  | error cause =>
      cases ended
      rfl

theorem exhausts_of_isStep {action : Eval α} (isStep : IsStep action) : action.Exhausts := by
  intro environment state fault ended isFatal
  cases isStep with
  | raise cause ordinary =>
      cases ended
      exact absurd isFatal (Bool.eq_false_iff.1 ordinary)
  | tick =>
      rw [outcome_tick] at ended
      exact Limiter.exhausts_of_tick (error_of_mapError ended)
  | check =>
      rw [outcome_check] at ended
      exact Limiter.exhausts_of_check (error_of_mapError ended)
  | onHeap compute ordinary =>
      rw [outcome_onHeap] at ended
      exact absurd isFatal
        (Bool.eq_false_iff.1 (ordinary state.heap fault (error_of_mapError ended)))
  | closeFile number =>
      unfold outcome closeFile at ended
      rw [Running.run_bind, Running.run_get] at ended
      dsimp only at ended
      cases closed : state.run.files.close? number <;> rw [closed] at ended <;> cases ended
  | _ => cases ended

/-! ### Calls, objects and loops -/

theorem callProcedure_exhausts {engine : Engine} {procedure : Procedure} {arguments : List Value}
    (exhausts : (engine.runInFrame procedure arguments).Exhausts) :
    (engine.callProcedure procedure arguments).Exhausts := by
  intro environment state fault ended isFatal
  have called := callProcedure_called engine procedure arguments environment state
  unfold outcome at ended
  generalize engine.callProcedure procedure arguments environment state = result at called ended
  cases called with
  | refused refuses =>
      cases ended
      exact Limiter.exhausts_of_enter refuses
  | stopped enters ran =>
      cases ended
      exact Limiter.exhausts_of_entered enters
        (exhausts environment _ fault (outcome_of_error ran) isFatal)
  | _ => cases ended

theorem offerLoop_exhausts (loop : Statement) : (offerLoop loop).Exhausts := by
  intro environment state fault ended _
  have offered := offerLoop_offered environment state loop
  unfold outcome at ended
  generalize offerLoop loop environment state = result at offered ended
  cases offered with
  | fatal _ _ ran =>
      cases ended
      exact Machine.exhausts_of_run ran
  | _ => cases ended

theorem receiverValue?_exhausts {engine : Engine}
    (keeps : ∀ object, (engine.node object).Leads State.KeepsDepth)
    (exhausts : ∀ object, (engine.node object).Exhausts) : engine.receiverValue?.Exhausts := by
  have order := State.KeepsDepth.isPreorder
  refine .observe fun state => ?_
  dsimp only
  split
  · exact .pure _
  · split
    · exact .pure _
    · exact .bind (.modify fun _ => ⟨rfl, rfl⟩) (.modify _) fun _ =>
        .bind (.afterwards order (.attempt (keeps _)) fun _ => ⟨rfl, rfl⟩)
          (.afterwards (.attempt (exhausts _)) _) fun _ =>
        .bind (.modify fun _ => ⟨rfl, rfl⟩) (.modify _) fun _ => .pure _

theorem constantValue_exhausts {engine : Engine} {expression : Expr}
    (keeps : (engine.nodeValue expression).Leads State.KeepsDepth)
    (exhausts : (engine.nodeValue expression).Exhausts) :
    (engine.constantValue expression).Exhausts := by
  have asks (source : String) : (Engine.cachedConstant? source).Leads State.KeepsDepth :=
    fun _ _ => ⟨rfl, rfl⟩
  refine .observe fun state =>
    .bind (asks _) (.of_ok fun _ _ => ⟨_, _, rfl⟩) fun found => ?_
  split
  · exact .pure _
  · exact .bind keeps exhausts fun _ =>
      .bind (.modify fun _ => ⟨rfl, rfl⟩) (.modify _) fun _ => .pure _

theorem IsComposed.exhausts {action : Eval α} (composed : action.IsComposed role) :
    action.Exhausts := by
  induction composed with
  | pure value => exact .pure value
  | bind composedFirst _ exhaustsFirst exhaustsNext =>
      exact .bind composedFirst.keepsDepth exhaustsFirst exhaustsNext
  | read => exact .of_ok fun _ _ => ⟨_, _, rfl⟩
  | observe _ _ exhausts => exact .observe exhausts
  | step isStep => exact exhausts_of_isStep isStep
  | errorStep isStep => cases isStep <;> exact .modify _
  | attempt _ exhausts => exact .attempt exhausts
  | withBlock object _ exhausts =>
      exact .bind (.modify fun _ => ⟨rfl, rfl⟩) (.modify _) fun _ => .afterwards exhausts _
  | receiver composedNode exhausts =>
      exact receiverValue?_exhausts (fun object => (composedNode object).keepsDepth) exhausts
  | call _ exhausts => exact callProcedure_exhausts exhausts
  | constant _ composedNode exhausts =>
      exact constantValue_exhausts composedNode.keepsDepth exhausts
  | compileLoop loop =>
      have evolves : (offerLoop loop).Evolves .raises := offerLoop_evolves loop
      exact .bind (fun environment state => (evolves environment state).keepsDepth)
        (offerLoop_exhausts loop) fun _ => .pure _

/-! ## The interpreter -/

/-- Calls are balanced and bounded. Where calls are nested within the limit, an evaluation ends at the
depth that it starts at, whether it ends well, with an error of the emulated program or with the end of
the emulation, and wherever it is refused a call, this is the first one beyond the limit. -/
theorem ends_at_depth {action : Eval α} (interpretation : action.IsInterpretation)
    (environment : Environment) (state : State)
    (within : state.run.limiter.depth ≤ state.run.limiter.maxDepth) :
    (action.after environment state).run.limiter.depth = state.run.limiter.depth ∧
      (action.after environment state).run.limiter.maxDepth = state.run.limiter.maxDepth ∧
      ∀ depth, action.outcome environment state = .error (.fault (.recursionLimit depth)) →
        depth = state.run.limiter.maxDepth + 1 := by
  have composed := interpretation.isComposed
  have keeps := composed.keepsDepth environment state
  refine ⟨keeps.depth, keeps.maxDepth, fun depth refused => ?_⟩
  exact (composed.exhausts environment state _ refused rfl).2 within depth rfl

private def endlessFunction : Procedure :=
  { name := "F", kind := .function, body := [.assign (.var "F") (.call (.var "F") [])] }

private def callingLoop : Statement :=
  .forRange "i" (.literal (.integer 1)) (.literal (.integer 2)) none
    [.assign (.var "x") (.call (.var "F") [])]

private def shallow : Environment := { policy := { maxCallDepth := 3 } }

private def shallowState : State :=
  (State.start shallow none {} {}).setProcedure endlessFunction

/-- A function that calls itself is refused its fourth call where three may nest, when it is called and
when a compiled loop calls it. -/
theorem ends_at_depth_of_endless :
    (call endlessFunction []).IsInterpretation ∧ (compileLoop callingLoop).IsInterpretation ∧
      shallowState.run.limiter.depth ≤ shallowState.run.limiter.maxDepth ∧
      shallowState.run.limiter.maxDepth = 3 ∧
      (call endlessFunction []).outcome shallow shallowState =
        .error (.fault (.recursionLimit 4)) ∧
      ((call endlessFunction []).after shallow shallowState).run.limiter.depth = 0 ∧
      (compileLoop callingLoop).outcome shallow shallowState =
        .error (.fault (.recursionLimit 4)) ∧
      ((compileLoop callingLoop).after shallow shallowState).run.limiter.depth = 0 := by
  have called := ends_at_depth (.call endlessFunction []) shallow shallowState (by decide)
  have compiled := ends_at_depth (.compileLoop callingLoop) shallow shallowState (by decide)
  exact ⟨.call _ _, .compileLoop _, by decide, rfl, by decide +kernel, called.1,
    by decide +kernel, compiled.1⟩

end Eval

end MacroSandbox
