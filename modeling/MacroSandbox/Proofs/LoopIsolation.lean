import MacroSandbox.Loop.Compiler
import MacroSandbox.Proofs.Confinement
import MacroSandbox.Proofs.Running

/-! A loop that is offered to the compiler leaves the caller alone unless a result is written back:
the machine works on copies, so a run that is given up has changed nothing that the caller can
see. -/

namespace MacroSandbox

/-- A state is as it was before, but for the caches and the ticks of the limiter. -/
def State.IsUntouched (before after : State) : Prop :=
  after = { before with caches := after.caches, run.limiter.ticks := after.run.limiter.ticks }

namespace State.IsUntouched

theorem refl (state : State) : state.IsUntouched state :=
  rfl

theorem trans {first second third : State} (left : first.IsUntouched second)
    (right : second.IsUntouched third) : first.IsUntouched third := by
  unfold State.IsUntouched at *
  rw [right, left]

theorem withCaches (state : State) (caches : Caches) :
    state.IsUntouched { state with caches } :=
  rfl

variable {before after : State}

theorem heap_eq (untouched : before.IsUntouched after) : after.heap = before.heap := by
  rw [untouched]

theorem frame_eq (untouched : before.IsUntouched after) : after.frame = before.frame := by
  rw [untouched]

theorem scope_eq (untouched : before.IsUntouched after) (environment : Environment) :
    after.scope environment = before.scope environment := by
  rw [untouched]
  rfl

end State.IsUntouched

theorem State.isUntouched_afterMachine (state : State) (program : LoopProgram) (policy : Policy) :
    state.IsUntouched
      (state.afterMachine (Machine.run program policy state.heap state.run.limiter).2) := by
  have confined := Machine.confined_run program policy state.heap state.run.limiter
    (fun _ => True) (fun _ _ => trivial) (fun _ _ _ _ _ => trivial)
  generalize (Machine.run program policy state.heap state.run.limiter).2 = machine at confined
  unfold State.IsUntouched State.afterMachine
  rw [confined.heap.restrictTo_eq]
  dsimp only
  conv => lhs; rw [confined.limiter]

/-! ## Offering a loop -/

/-- The caller is untouched by what became of a loop, unless a result was written back. -/
def LoopOutcome.IsAllOrNothing (before : State) :
    EStateM.Result Interruption State LoopOutcome → Prop
  | .ok outcome after => outcome.isMerged = false → before.IsUntouched after
  | .error _ after => before.IsUntouched after

theorem LoopOutcome.IsAllOrNothing.of_untouched {before middle : State}
    {ended : EStateM.Result Interruption State LoopOutcome} (untouched : before.IsUntouched middle)
    (allOrNothing : IsAllOrNothing middle ended) : IsAllOrNothing before ended := by
  cases ended with
  | ok outcome after => exact fun notMerged => untouched.trans (allOrNothing notMerged)
  | error interruption after => exact untouched.trans allOrNothing

namespace Eval

theorem runProgram_isAllOrNothing (environment : Environment) (state : State) (lowered : Lowered)
    (key : String) :
    LoopOutcome.IsAllOrNothing state (runProgram lowered key environment state) := by
  have untouched := state.isUntouched_afterMachine lowered.program environment.policy
  simp only [runProgram, rememberLoop, Running.run_bind, Running.run_read, Running.run_get,
    Running.run_modify]
  generalize Machine.run lowered.program environment.policy state.heap state.run.limiter = ran
    at untouched
  rcases ran with ⟨outcome, machine⟩
  cases outcome with
  | ok result => exact fun impossible => by cases impossible
  | error halt =>
      cases halt with
      | runaway => exact fun _ => untouched.trans (.withCaches _ _)
      | failed fault => exact fun _ => untouched.trans (.withCaches _ _)
      | fatal fault => exact untouched

theorem offerLoop_isAllOrNothing (environment : Environment) (state : State) (loop : Statement) :
    LoopOutcome.IsAllOrNothing state (offerLoop loop environment state) := by
  simp only [offerLoop, Running.run_bind, Running.run_get, Running.run_read]
  split
  · exact fun _ => .refl state
  · cases (state.caller environment).lower? loop with
    | none => exact fun _ => .refl state
    | some lowered =>
        simp only [knownLoop?, Running.run_bind, Running.run_modifyGet]
        generalize state.caches.loop? _ = known
        rcases known with ⟨entry, caches⟩
        have looked : state.IsUntouched { state with caches } := .withCaches state caches
        rcases entry with _ | ⟨result | _ | _⟩
        · exact .of_untouched looked (runProgram_isAllOrNothing environment _ lowered _)
        · exact fun impossible => by cases impossible
        · exact fun _ => looked
        · exact fun _ => looked

/-- Compilation is all or nothing. The compiler says whether the loop that it was offered is settled
and ends in the state that the offer left; unless the result of a completed run was written back,
this is the state before, but for the caches and the ticks of the limiter. -/
theorem compileLoop_all_or_nothing (environment : Environment) (state : State)
    (loop : Statement) :
    match offerLoop loop environment state with
    | .ok outcome after =>
        compileLoop loop environment state = .ok outcome.isSettled after ∧
          (outcome.isMerged = false → state.IsUntouched after)
    | .error interruption after =>
        compileLoop loop environment state = .error interruption after ∧
          state.IsUntouched after := by
  have allOrNothing := offerLoop_isAllOrNothing environment state loop
  simp only [compileLoop, Running.run_bind, Running.run_pure]
  cases offered : offerLoop loop environment state with
  | ok outcome after =>
      rw [offered] at allOrNothing
      exact ⟨rfl, allOrNothing⟩
  | error interruption after =>
      rw [offered] at allOrNothing
      exact ⟨rfl, allOrNothing⟩

end Eval

end MacroSandbox
