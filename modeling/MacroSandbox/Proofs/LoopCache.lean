import MacroSandbox.Proofs.Assignments
import MacroSandbox.Proofs.LoopIsolation

/-! What is remembered of loop programs.

Outcomes are remembered under the texts of programs, so what a loop is dealt with by is the outcome of a
program that reads like the program of the loop. Programs that read the same need not do the same: the
text does not say which variables are declared together. -/

namespace MacroSandbox

/-! ## Offering a loop -/

structure State.Lowers (environment : Environment) (state : State) (loop : Statement)
    (lowered : Lowered) : Prop where
  isStatic : hasDynamicCode (loop.render state.heap) = false
  lowers : (state.caller environment).lower? loop = some lowered

namespace Caches

theorem fst_loop? (caches : Caches) (program : String) :
    (caches.loop? program).1 = caches.loops.get? program := by
  unfold loop?
  split <;> exact Eq.symm ‹_›

theorem loops_loop? (caches : Caches) (program : String) :
    (caches.loop? program).2.loops = caches.loops := by
  unfold loop?
  split <;> rfl

theorem constants_loop? (caches : Caches) (program : String) :
    (caches.loop? program).2.constants = caches.constants := by
  unfold loop?
  split <;> rfl

end Caches

namespace Eval

/-- What becomes of a loop that is offered to the compiler, with the state that the offer leaves. -/
inductive Offered (environment : Environment) (state : State) (loop : Statement) :
    EStateM.Result Interruption State LoopOutcome → Prop
  | dynamic (isDynamic : hasDynamicCode (loop.render state.heap) = true) :
      Offered environment state loop (.ok .dynamic state)
  | refused (isStatic : hasDynamicCode (loop.render state.heap) = false)
      (refuses : (state.caller environment).lower? loop = none) :
      Offered environment state loop (.ok .refused state)
  | reused {lowered : Lowered} {result : LoopResult} (lowers : state.Lowers environment loop lowered)
      (found : state.caches.loops.get? (lowered.program.render state.heap) = some (.done result)) :
      Offered environment state loop
        (.ok .reused ((state.mergeResult environment result lowered.certain).beside
          (state.caches.loop? (lowered.program.render state.heap)).2 state.run.sink
          state.run.limiter.ticks))
  | failedBefore {lowered : Lowered} {entry : CachedLoop}
      (lowers : state.Lowers environment loop lowered)
      (found : state.caches.loops.get? (lowered.program.render state.heap) = some entry)
      (without : entry = .failed ∨ entry = .endless) :
      Offered environment state loop
        (.ok .failedBefore (state.beside
          (state.caches.loop? (lowered.program.render state.heap)).2 state.run.sink
          state.run.limiter.ticks))
  | completed {lowered : Lowered} {result : LoopResult} (ticks : UInt64)
      (lowers : state.Lowers environment loop lowered)
      (unknown : state.caches.loops.get? (lowered.program.render state.heap) = none)
      (ran : (Machine.run lowered.program environment.policy state.heap state.run.limiter).1 =
        .ok result) :
      Offered environment state loop
        (.ok .completed ((state.mergeResult environment result lowered.certain).beside
          ((state.caches.loop? (lowered.program.render state.heap)).2.storeLoop
            (lowered.program.render state.heap) (.done result)) state.run.sink ticks))
  | failed {lowered : Lowered} {fault : Fault} (ticks : UInt64)
      (lowers : state.Lowers environment loop lowered)
      (unknown : state.caches.loops.get? (lowered.program.render state.heap) = none)
      (ran : (Machine.run lowered.program environment.policy state.heap state.run.limiter).1 =
        .error (.failed fault)) :
      Offered environment state loop
        (.ok .failed (state.beside
          ((state.caches.loop? (lowered.program.render state.heap)).2.storeLoop
            (lowered.program.render state.heap) .failed) state.run.sink ticks))
  | endless {lowered : Lowered} (ticks : UInt64)
      (lowers : state.Lowers environment loop lowered)
      (unknown : state.caches.loops.get? (lowered.program.render state.heap) = none)
      (ran : (Machine.run lowered.program environment.policy state.heap state.run.limiter).1 =
        .error .runaway) :
      Offered environment state loop
        (.ok .endless (state.beside
          ((state.caches.loop? (lowered.program.render state.heap)).2.storeLoop
            (lowered.program.render state.heap) .endless) state.run.sink ticks))
  | fatal {lowered : Lowered} {fault : Fault} (ticks : UInt64)
      (lowers : state.Lowers environment loop lowered)
      (ran : (Machine.run lowered.program environment.policy state.heap state.run.limiter).1 =
        .error (.fatal fault)) :
      Offered environment state loop
        (.error (.fault fault) (state.beside
          (state.caches.loop? (lowered.program.render state.heap)).2 state.run.sink ticks))

variable {environment : Environment} {state : State} {loop : Statement}

theorem knownLoop?_eq (key : String) :
    knownLoop? key environment state =
      .ok (state.caches.loops.get? key)
        (state.beside (state.caches.loop? key).2 state.run.sink state.run.limiter.ticks) := by
  rw [← Caches.fst_loop?]
  rfl

theorem offerLoop_eq {lowered : Lowered} (lowers : state.Lowers environment loop lowered) :
    offerLoop loop environment state =
      let key := lowered.program.render state.heap
      let asked := state.beside (state.caches.loop? key).2 state.run.sink state.run.limiter.ticks
      match state.caches.loops.get? key with
      | some (.done result) =>
          .ok .reused (asked.mergeResult environment result lowered.certain)
      | some .failed | some .endless => .ok .failedBefore asked
      | none => runProgram lowered key environment asked := by
  have sameHeap : (state.caller environment).heap = state.heap := rfl
  simp only [offerLoop, Running.run_bind, Running.run_get, Running.run_read, sameHeap,
    lowers.isStatic, Bool.false_eq_true, if_false, lowers.lowers, knownLoop?_eq]
  rcases state.caches.loops.get? (lowered.program.render state.heap) with _ | _ | _ | _ <;> rfl

theorem runProgram_offered {lowered : Lowered} (lowers : state.Lowers environment loop lowered)
    (unknown : state.caches.loops.get? (lowered.program.render state.heap) = none) :
    Offered environment state loop
      (runProgram lowered (lowered.program.render state.heap) environment
        (state.beside (state.caches.loop? (lowered.program.render state.heap)).2 state.run.sink
          state.run.limiter.ticks)) := by
  let caches := (state.caches.loop? (lowered.program.render state.heap)).2
  let asked := state.beside caches state.run.sink state.run.limiter.ticks
  have untouched := asked.isUntouched_afterMachine lowered.program environment.policy
  rcases ran : Machine.run lowered.program environment.policy state.heap state.run.limiter with
    ⟨outcome, machine⟩
  have ranAsked : Machine.run lowered.program environment.policy asked.heap asked.run.limiter =
    (outcome, machine) := ran
  have ended := congrArg Prod.fst ran
  rw [ranAsked] at untouched
  have left : asked.afterMachine machine =
      state.beside caches state.run.sink machine.limiter.ticks := untouched
  simp only [runProgram, rememberLoop, mergeResult, Running.run_bind, Running.run_read,
    Running.run_get, Running.run_modify]
  rw [ranAsked, left]
  cases outcome with
  | error halt =>
      cases halt with
      | runaway => exact .endless _ lowers unknown ended
      | failed fault => exact .failed _ lowers unknown ended
      | fatal fault => exact .fatal _ lowers ended
  | ok result =>
      let remembered (merged : State) : State :=
        { merged with caches :=
            merged.caches.storeLoop (lowered.program.render state.heap) (.done result) }
      have merged := @State.mergeResult_beside environment state result lowered.certain caches
        state.run.sink machine.limiter.ticks
      exact (congrArg (Offered environment state loop <| .ok .completed <| remembered ·) merged).mpr
        (.completed _ lowers unknown ended)

theorem offerLoop_of_dynamic (isDynamic : hasDynamicCode (loop.render state.heap) = true) :
    offerLoop loop environment state = .ok .dynamic state := by
  have sameHeap : (state.caller environment).heap = state.heap := rfl
  simp only [offerLoop, Running.run_bind, Running.run_get, Running.run_read, sameHeap, isDynamic,
    if_true, Running.run_pure]

theorem offerLoop_of_refused (isStatic : hasDynamicCode (loop.render state.heap) = false)
    (refuses : (state.caller environment).lower? loop = none) :
    offerLoop loop environment state = .ok .refused state := by
  have sameHeap : (state.caller environment).heap = state.heap := rfl
  simp only [offerLoop, Running.run_bind, Running.run_get, Running.run_read, sameHeap, isStatic,
    Bool.false_eq_true, if_false, refuses, Running.run_pure]

theorem offerLoop_offered (environment : Environment) (state : State) (loop : Statement) :
    Offered environment state loop (offerLoop loop environment state) := by
  cases isDynamic : hasDynamicCode (loop.render state.heap) with
  | true =>
      rw [offerLoop_of_dynamic isDynamic]
      exact .dynamic isDynamic
  | false =>
      cases lowers : (state.caller environment).lower? loop with
      | none =>
          rw [offerLoop_of_refused isDynamic lowers]
          exact .refused isDynamic lowers
      | some lowered =>
          have lowers : state.Lowers environment loop lowered := ⟨isDynamic, lowers⟩
          rw [offerLoop_eq lowers]
          dsimp only
          cases found : state.caches.loops.get? (lowered.program.render state.heap) with
          | none => exact runProgram_offered lowers found
          | some entry =>
              cases entry with
              | done result =>
                  dsimp only
                  rw [State.mergeResult_beside]
                  exact .reused lowers found
              | failed => exact .failedBefore lowers found (.inl rfl)
              | endless => exact .failedBefore lowers found (.inr rfl)

end Eval

/-! ## Remembered outcomes -/

/-- A loop in a state in which it has a program, under a policy and with a library. -/
structure LoopRun (policy : Policy) (library : Library) where
  environment : Environment
  state : State
  loop : Statement
  lowered : Lowered
  samePolicy : environment.policy = policy
  sameLibrary : environment.library = library
  lowers : state.Lowers environment loop lowered

namespace LoopRun

variable {policy : Policy} {library : Library}

def text (run : LoopRun policy library) : String :=
  run.lowered.program.render run.state.heap

def outcome (run : LoopRun policy library) : Except Machine.Halt LoopResult :=
  (Machine.run run.lowered.program policy run.state.heap run.state.run.limiter).1

end LoopRun

def CachedLoop.ofOutcome? : Except Machine.Halt LoopResult → Option CachedLoop
  | .ok result => some (.done result)
  | .error .runaway => some .endless
  | .error (.failed _) => some .failed
  | .error (.fatal _) => none

theorem CachedLoop.eq_ok_of_ofOutcome? {outcome : Except Machine.Halt LoopResult}
    {result : LoopResult} (isOutcome : ofOutcome? outcome = some (.done result)) :
    outcome = .ok result := by
  rcases outcome with (_ | _ | _) | _ <;> cases isOutcome
  rfl

theorem CachedLoop.exists_error_of_ofOutcome? {outcome : Except Machine.Halt LoopResult}
    {entry : CachedLoop} (isOutcome : ofOutcome? outcome = some entry)
    (without : entry = .failed ∨ entry = .endless) : ∃ halt, outcome = .error halt := by
  rcases outcome with halt | result
  · exact ⟨halt, rfl⟩
  · cases isOutcome
    rcases without with impossible | impossible <;> cases impossible

namespace Caches

variable {policy : Policy} {library : Library} {runs : LoopRun policy library → Prop}
  {caches later : Caches}

def AreOutcomes (runs : LoopRun policy library → Prop) (caches : Caches) : Prop :=
  ∀ text entry, caches.loops.get? text = some entry →
    ∃ run, runs run ∧ run.text = text ∧ CachedLoop.ofOutcome? run.outcome = some entry

theorem areOutcomes_empty : ({} : Caches).AreOutcomes runs := by
  intro text entry found
  rw [Std.TreeMap.get?_eq_getElem?, Std.TreeMap.getElem?_emptyc] at found
  cases found

theorem AreOutcomes.of_same (outcomes : caches.AreOutcomes runs)
    (same : later.loops = caches.loops) : later.AreOutcomes runs := by
  unfold AreOutcomes
  rw [same]
  exact outcomes

theorem AreOutcomes.storeLoop (outcomes : caches.AreOutcomes runs) {run : LoopRun policy library}
    (isRun : runs run) {entry : CachedLoop}
    (isOutcome : CachedLoop.ofOutcome? run.outcome = some entry) :
    (caches.storeLoop run.text entry).AreOutcomes runs := by
  intro text found inserted
  rw [Caches.storeLoop, Std.TreeMap.get?_eq_getElem?, Std.TreeMap.getElem?_insert] at inserted
  split at inserted
  · rename_i same
    cases inserted
    exact ⟨run, isRun, Std.LawfulEqCmp.compare_eq_iff_eq.1 same, isOutcome⟩
  · exact outcomes text found inserted

/-- What is remembered after loops were offered, in any states that shared it, and anything was done
that remembers no loop. Where a loop has a program, the offer is one of some runs. -/
inductive RemembersLoops (runs : LoopRun policy library → Prop) : Caches → Prop
  | nothing : RemembersLoops runs {}
  | offered {environment : Environment} {state : State} (loop : Statement)
      (earlier : RemembersLoops runs state.caches) (samePolicy : environment.policy = policy)
      (sameLibrary : environment.library = library)
      (areRuns : ∀ lowered (lowers : state.Lowers environment loop lowered),
        runs { environment, state, loop, lowered, samePolicy, sameLibrary, lowers }) :
      RemembersLoops runs ((Eval.offerLoop loop).after environment state).caches
  | otherwise {caches later : Caches} (earlier : RemembersLoops runs caches)
      (same : later.loops = caches.loops) : RemembersLoops runs later

end Caches

namespace Eval

variable {environment : Environment} {state : State} {loop : Statement}

theorem offerLoop_areOutcomes {policy : Policy} {library : Library}
    {runs : LoopRun policy library → Prop} (outcomes : state.caches.AreOutcomes runs)
    (samePolicy : environment.policy = policy) (sameLibrary : environment.library = library)
    (areRuns : ∀ lowered (lowers : state.Lowers environment loop lowered),
      runs { environment, state, loop, lowered, samePolicy, sameLibrary, lowers }) :
    ((offerLoop loop).after environment state).caches.AreOutcomes runs := by
  subst samePolicy sameLibrary
  have asked (key : String) := outcomes.of_same (state.caches.loops_loop? key)
  have stored {lowered : Lowered} {entry : CachedLoop}
      (lowers : state.Lowers environment loop lowered)
      (isOutcome : CachedLoop.ofOutcome?
        (Machine.run lowered.program environment.policy state.heap state.run.limiter).1 =
          some entry) :
      ((state.caches.loop? (lowered.program.render state.heap)).2.storeLoop
        (lowered.program.render state.heap) entry).AreOutcomes runs :=
    (asked _).storeLoop (areRuns lowered lowers) isOutcome
  have offered := offerLoop_offered environment state loop
  unfold after
  generalize offerLoop loop environment state = ended at offered
  cases offered with
  | dynamic | refused => exact outcomes
  | reused | failedBefore | fatal => exact asked _
  | completed ticks lowers _ ran => exact stored lowers (by rw [ran]; rfl)
  | failed ticks lowers _ ran => exact stored lowers (by rw [ran]; rfl)
  | endless ticks lowers _ ran => exact stored lowers (by rw [ran]; rfl)

end Eval

theorem Caches.RemembersLoops.areOutcomes {policy : Policy} {library : Library}
    {runs : LoopRun policy library → Prop} {caches : Caches}
    (remembers : caches.RemembersLoops runs) : caches.AreOutcomes runs := by
  induction remembers with
  | nothing => exact areOutcomes_empty
  | offered loop _ samePolicy sameLibrary areRuns induction =>
      exact Eval.offerLoop_areOutcomes induction samePolicy sameLibrary areRuns
  | otherwise _ same induction => exact induction.of_same same

/-! ## Loops that are dealt with by what is remembered -/

/-- Where everything that is remembered under the text of a run is its own outcome, a loop is dealt with
as its program ends: its result is written back, or it is left to the interpreter for want of one. -/
theorem LoopRun.offerLoop_eq {policy : Policy} {library : Library} (run : LoopRun policy library)
    (remembered : ∀ entry, run.state.caches.loops.get? run.text = some entry →
      CachedLoop.ofOutcome? run.outcome = some entry) {outcome : LoopOutcome}
    (offered : (Eval.offerLoop run.loop).outcome run.environment run.state = .ok outcome) :
    (outcome.isMerged = true → ∃ result, run.outcome = .ok result ∧
        (run.state.mergeResult run.environment result run.lowered.certain).IsUntouched
          ((Eval.offerLoop run.loop).after run.environment run.state)) ∧
      (outcome.isMerged = false → ∃ halt, run.outcome = .error halt) := by
  rcases run with ⟨environment, state, loop, lowered, rfl, rfl, lowers⟩
  have merges (result : LoopResult) (caches : Caches) (ticks : UInt64) :
      (state.mergeResult environment result lowered.certain).IsUntouched
        ((state.mergeResult environment result lowered.certain).beside caches state.run.sink
          ticks) := by
    have sameSink : (state.mergeResult environment result lowered.certain).run.sink =
        state.run.sink := congrArg Aside.sink (State.aside_mergeResult result lowered.certain)
    rw [← sameSink]
    rfl
  have own {other : Lowered} (lowersToo : state.Lowers environment loop other) : other = lowered :=
    Option.some.inj (lowersToo.lowers.symm.trans lowers.lowers)
  have ways := Eval.offerLoop_offered environment state loop
  unfold Eval.outcome at offered
  unfold Eval.after
  dsimp only at offered ⊢
  generalize Eval.offerLoop loop environment state = ended at ways offered
  cases ways with
  | dynamic isDynamic =>
      rw [lowers.isStatic] at isDynamic
      cases isDynamic
  | refused _ refuses =>
      rw [lowers.lowers] at refuses
      cases refuses
  | reused lowersToo found =>
      cases own lowersToo
      cases offered
      exact ⟨fun _ => ⟨_, CachedLoop.eq_ok_of_ofOutcome? (remembered _ found), merges _ _ _⟩, nofun⟩
  | failedBefore lowersToo found without =>
      cases own lowersToo
      cases offered
      exact ⟨nofun, fun _ => CachedLoop.exists_error_of_ofOutcome? (remembered _ found) without⟩
  | completed ticks lowersToo _ ran =>
      cases own lowersToo
      cases offered
      exact ⟨fun _ => ⟨_, ran, merges _ _ _⟩, nofun⟩
  | failed ticks lowersToo _ ran | endless ticks lowersToo _ ran =>
      cases own lowersToo
      cases offered
      exact ⟨nofun, fun _ => ⟨_, ran⟩⟩
  | fatal => cases offered

/-! ## Declarations that read the same -/

private def bareEnvironment : Environment :=
  { library := {}, constants := {} }

private def declaringFunction (declarations : List (List Declaration)) : Procedure :=
  { name := "F", kind := .function, body := declarations.map .dim ++ [.assign (.var "F") (.var "b")] }

private def hugeArray : Declaration :=
  { name := "a", bounds := [.literal (.integer 10000000000000)] }

private def integerVariable : Declaration :=
  { name := "b", type := some .integer }

private def callingLoop : Statement :=
  .forRange "i" (.literal (.integer 1)) (.literal (.integer 1)) none [
    .assign (.var "x") (.call (.var "F") [])]

private def callingState (declarations : List (List Declaration)) : State :=
  let start := (State.start bareEnvironment none {} {}).set bareEnvironment "i" (.integer 0)
  (start.set bareEnvironment "x" (.integer 5)).setProcedure (declaringFunction declarations)

private def callingText (declarations : List (List Declaration)) : Option String :=
  let state := callingState declarations
  ((state.caller bareEnvironment).lower? callingLoop).map (·.program.render state.heap)

private def called (declarations : List (List Declaration)) : Option (LoopOutcome × Option Value) :=
  match Eval.offerLoop callingLoop bareEnvironment (callingState declarations) with
  | .ok outcome after => some (outcome, (after.scope bareEnvironment).get? "x")
  | .error _ _ => none

set_option maxRecDepth 100000 in
/-- A declaration that fails takes the declarations of its statement with it, but the text does not
say which these are: a variable that is declared on its own is taken for one that is not declared. -/
theorem Eval.offerLoop_confuses_declarations :
    callingText [[hugeArray, integerVariable]] = callingText [[hugeArray], [integerVariable]] ∧
      called [[hugeArray, integerVariable]] = some (.completed, some .null) ∧
      called [[hugeArray], [integerVariable]] = some (.completed, some (.integer 0)) := by
  decide +kernel

end MacroSandbox
