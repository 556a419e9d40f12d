import MacroSandbox.Emulator
import MacroSandbox.Proofs.Confinement
import MacroSandbox.Proofs.LoopCache
import MacroSandbox.Proofs.Running

/-! Which faults leave the interpreter. Faults are raised everywhere, and wherever a block, a call, a
compiled loop or a whole run hands a result to its host, only the exhaustion of a resource is still
one. -/

namespace MacroSandbox

/-- The faults that end the evaluation are fatal ones. -/
def Eval.Absorbs {α : Type} (environment : Environment) (action : Eval α) : Prop :=
  ∀ state fault, action.outcome environment state = .error (.fault fault) → fault.isFatal = true

namespace Eval.Absorbs

variable {α β : Type} {environment : Environment}

/-! ## Ways to put evaluations together -/

theorem of_ok {action : Eval α}
    (ends : ∀ state, ∃ value after, action environment state = .ok value after) :
    action.Absorbs environment := by
  intro state fault escaped
  obtain ⟨value, after, ran⟩ := ends state
  rw [outcome_of_ok ran] at escaped
  cases escaped

theorem pure (value : α) : (Pure.pure value : Eval α).Absorbs environment :=
  of_ok fun _ => ⟨_, _, rfl⟩

theorem modify (change : State → State) :
    (MonadState.modifyGet fun state => ((), change state) : Eval Unit).Absorbs environment :=
  of_ok fun _ => ⟨_, _, rfl⟩

theorem bind {first : Eval α} {next : α → Eval β} (absorbsFirst : first.Absorbs environment)
    (absorbsNext : ∀ value, (next value).Absorbs environment) :
    (first >>= next).Absorbs environment := by
  intro state fault escaped
  rw [outcome_bind] at escaped
  split at escaped
  · exact absorbsNext _ _ _ escaped
  · rename_i failed
    apply absorbsFirst state fault
    rw [outcome_of_error failed]
    exact congrArg Except.error (Except.error.inj escaped)

theorem map {first : Eval α} (image : α → β) (absorbs : first.Absorbs environment) :
    (image <$> first).Absorbs environment :=
  absorbs.bind fun value => pure (image value)

theorem observe {next : State → Eval α} (absorbs : ∀ state, (next state).Absorbs environment) :
    (get >>= next).Absorbs environment :=
  fun state => absorbs state state

theorem consult {next : Environment → Eval α} (absorbs : (next environment).Absorbs environment) :
    (read >>= next).Absorbs environment :=
  absorbs

theorem attempt (action : Eval α) : (Eval.attempt action).Absorbs environment := by
  intro state fault escaped
  rw [outcome_attempt] at escaped
  unfold absorbed at escaped
  split at escaped
  · cases escaped
  · split at escaped
    · cases escaped
      assumption
    · cases escaped
  · cases escaped

theorem afterwards {action : Eval α} (absorbs : action.Absorbs environment)
    (change : State → State) : (Eval.afterwards action change).Absorbs environment := by
  intro state fault escaped
  rw [outcome_afterwards] at escaped
  exact absorbs state fault escaped

/-! ## Steps -/

theorem setVariable (name : String) (value : Value) :
    (Eval.setVariable name value).Absorbs environment :=
  consult (modify _)

theorem assignVariable (placement : Placement) (type : Option DeclaredType) (name : String)
    (value : Value) : (Eval.assignVariable placement type name value).Absorbs environment :=
  consult (modify _)

theorem setError (fault : Fault) : (Eval.setError fault).Absorbs environment :=
  bind (modify _) fun _ => modify _

theorem mustHandleError : Eval.mustHandleError.Absorbs environment :=
  observe fun _ => pure _

theorem scope : Eval.scope.Absorbs environment :=
  observe fun _ => consult (pure _)

theorem report (kind value description : String) :
    (Eval.report kind value description).Absorbs environment :=
  consult (modify _)

theorem closeFiles (numbers : List String) : (Eval.closeFiles numbers).Absorbs environment := by
  induction numbers with
  | nil => exact pure _
  | cons number rest restAbsorbs =>
      apply bind
      · apply observe
        intro state
        split
        · exact bind (modify _) fun _ => report _ _ _
        · exact pure _
      · exact fun _ => restAbsorbs

theorem closeAllFiles : Eval.closeAllFiles.Absorbs environment :=
  observe fun _ => closeFiles _

theorem tick : Eval.tick.Absorbs environment := by
  intro state fault escaped
  simp only [outcome, Eval.tick, Limiter.tick] at escaped
  grind [Fault.isFatal]

theorem check : Eval.check.Absorbs environment := by
  intro state fault escaped
  simp only [outcome, Eval.check, Limiter.check] at escaped
  grind [Fault.isFatal]

theorem enterFrame : Engine.enterFrame.Absorbs environment := by
  intro state fault escaped
  simp only [outcome, Engine.enterFrame, Limiter.enter] at escaped
  grind [Fault.isFatal]

end Eval.Absorbs

/-! ## Blocks, calls and handlers -/

namespace Engine

open Eval (Absorbs)

variable {environment : Environment}

/-- A fault of a statement is caught by the block that the statement is in, whatever evaluates the
parts of the statement. -/
theorem runBlock_absorbs (engine : Engine) (statements : List Statement) :
    (engine.runBlock statements).Absorbs environment := by
  induction statements with
  | nil => exact .pure _
  | cons statement rest restAbsorbs =>
      have goesOn (pending : Bool) : (if pending then Pure.pure Flow.continue
          else engine.runBlock rest : Eval Flow).Absorbs environment := by
        cases pending with
        | true => exact .pure _
        | false => exact restAbsorbs
      apply Absorbs.bind .tick
      intro _
      apply Absorbs.bind (.attempt _)
      intro ended
      split
      · exact Absorbs.bind .mustHandleError goesOn
      · exact Absorbs.bind .mustHandleError goesOn
      · exact .pure _
      · apply Absorbs.bind (.setError _)
        intro _
        exact Absorbs.bind .mustHandleError goesOn

def BlocksAbsorb (engine : Engine) (environment : Environment) : Prop :=
  ∀ statements, (engine.block statements).Absorbs environment

theorem blocksAbsorb_within (levels : Nat) : (within levels).BlocksAbsorb environment := by
  intro statements
  cases levels with
  | zero => exact fun _ _ escaped => nomatch escaped
  | succ levels => exact runBlock_absorbs _ statements

theorem bindParameters_absorbs (parameters : List Parameter) (arguments : List Value) :
    (bindParameters parameters arguments).Absorbs environment := by
  induction parameters generalizing arguments with
  | nil => exact .pure _
  | cons parameter rest restAbsorbs =>
      exact Absorbs.bind (.assignVariable _ _ _ _) fun _ => restAbsorbs _

theorem returnValue_absorbs (procedure : Procedure) :
    (returnValue procedure).Absorbs environment := by
  unfold returnValue
  cases procedure.kind with
  | sub => exact .pure _
  | function => exact Absorbs.bind .scope fun _ => .pure _

section

variable {engine : Engine} (blocks : engine.BlocksAbsorb environment)

include blocks

theorem handleError_absorbs : engine.handleError.Absorbs environment := by
  apply Absorbs.observe
  intro state
  dsimp only
  split
  · exact Absorbs.bind (.modify _) fun _ => .map _ (blocks _)
  · exact .pure _

theorem runInFrame_absorbs (procedure : Procedure) (arguments : List Value) :
    (engine.runInFrame procedure arguments).Absorbs environment := by
  have runs : (do
      bindParameters procedure.parameters arguments
      let _ ← engine.block procedure.body
      engine.handleError
      let pending ← Eval.mustHandleError
      let value ← returnValue procedure
      return (value, pending) : Eval (Value × Bool)).Absorbs environment := by
    apply Absorbs.bind (bindParameters_absorbs _ _)
    intro _
    apply Absorbs.bind (blocks _)
    intro _
    apply Absorbs.bind (handleError_absorbs blocks)
    intro _
    apply Absorbs.bind .mustHandleError
    intro _
    exact .map _ (returnValue_absorbs procedure)
  apply Absorbs.bind (.modify _)
  intro _
  dsimp only
  split
  · exact Absorbs.bind (.assignVariable _ _ _ _) fun _ => runs
  · exact runs

theorem callProcedure_absorbs (procedure : Procedure) (arguments : List Value) :
    (engine.callProcedure procedure arguments).Absorbs environment := by
  apply Absorbs.observe
  intro state
  apply Absorbs.bind .enterFrame
  intro _
  apply Absorbs.bind ((runInFrame_absorbs blocks procedure arguments).afterwards _)
  intro returned
  dsimp only
  split
  · exact Absorbs.bind (.modify _) fun _ => .pure _
  · exact .pure _

end

end Engine

/-! ## Names -/

namespace Library

private theorem mem_of_get?_foldl {functions : List LibraryFunction} {library : Library}
    {name : String} {function : LibraryFunction}
    (found : (functions.foldl register library).functions.get? name = some function) :
    function ∈ functions ∨ library.functions.get? name = some function := by
  induction functions generalizing library with
  | nil => exact .inr found
  | cons first rest induction =>
      rcases induction found with later | earlier
      · exact .inl (List.mem_cons_of_mem first later)
      · simp only [register, NameMap.get?_insert] at earlier
        split at earlier
        · cases earlier
          exact .inl List.mem_cons_self
        · exact .inr earlier

theorem mem_of_get?_ofFunctions {functions : List LibraryFunction} {name : String}
    {function : LibraryFunction} (found : (ofFunctions functions).get? name = some function) :
    function ∈ functions := by
  have listed {key : String} (held : (ofFunctions functions).functions.get? key = some function) :
      function ∈ functions := by
    rcases mem_of_get?_foldl held with member | inEmpty
    · exact member
    · simp [NameMap.get?] at inEmpty
  unfold get? at found
  split at found
  · rename_i held
    exact listed (held.trans found)
  · obtain ⟨stem, -, held⟩ := Option.bind_eq_some_iff.1 found
    exact listed held

theorem harmless_of_admits : ∀ function ∈ pureCatalog ++ hostCatalog,
    function.arity.admits 0 = true →
      function.routine = .pure .array ∨ function.isPure = false := by
  decide

end Library

theorem Eval.Absorbs.callLibrary {environment : Environment} {function : LibraryFunction}
    (admits : function.arity.admits 0 = true)
    (harmless : function.routine = .pure .array ∨ function.isPure = false) :
    (Eval.callLibrary function []).Absorbs environment := by
  apply Absorbs.of_ok
  intro state
  have arity : function.checkArity ([] : List Value).length = .ok () := if_pos admits
  rcases function with ⟨name, bounds, returnType, routine⟩
  unfold Eval.callLibrary
  rw [arity]
  rcases harmless with array | notPure
  · dsimp only at array
    subst array
    exact ⟨_, _, rfl⟩
  · cases routine with
    | pure => cases notPure
    | host routine => cases routine <;> exact ⟨_, _, rfl⟩

namespace Engine

open Eval (Absorbs)

section

variable {environment : Environment} {engine : Engine}
  (calls : ∀ procedure arguments, (engine.call procedure arguments).Absorbs environment)
  (standard : environment.library = .standard)
  (noExternals : ∀ name, environment.externals.get? name = none)

include calls standard noExternals

theorem callFunction?_absorbs {name : String} {state : State} {fault : Fault}
    (callable : ((state.scope environment).procedure? name).isSome ||
      (plainFunction? environment.library name).isSome)
    (escaped : (engine.callFunction? name []).outcome environment state = .error (.fault fault)) :
    fault.isFatal = true := by
  have asked : (Eval.procedure? name) environment state =
      .ok ((state.scope environment).procedure? name) state := rfl
  unfold callFunction? at escaped
  rw [Eval.outcome_bind, asked] at escaped
  dsimp only at escaped
  split at escaped
  · exact (calls _ _).map some state fault escaped
  · rename_i noProcedure
    simp only [noProcedure, Option.isSome_none, Bool.false_or, plainFunction?,
      Option.isSome_filter] at callable
    simp only [Eval.outcome_bind, Running.run_read, noExternals] at escaped
    split at escaped
    · rename_i function found
      rw [found] at callable
      rw [standard] at found
      have harmless := Library.harmless_of_admits function
        (Library.mem_of_get?_ofFunctions found) callable
      exact (Absorbs.callLibrary callable harmless).map some state fault escaped
    · cases escaped

theorem pathValue?_absorbs (path : String) : (engine.pathValue? path).Absorbs environment := by
  intro state fault escaped
  unfold pathValue? at escaped
  simp only [Eval.outcome_bind, Eval.scope, Running.run_bind, Running.run_get, Running.run_read,
    Running.run_pure] at escaped
  split at escaped
  · cases escaped
  · cases escaped
  · rw [Eval.outcome_bind, Running.run_read] at escaped
    dsimp only at escaped
    split at escaped
    · rename_i isCall
      exact callFunction?_absorbs calls standard noExternals ((Bool.and_eq_true _ _).mp isCall).2
        escaped
    · cases escaped

theorem dottedValue?_absorbs (path : String) :
    (engine.dottedValue? path).Absorbs environment := by
  apply Absorbs.consult
  dsimp only
  split
  · exact .pure _
  · apply Absorbs.bind (pathValue?_absorbs calls standard noExternals path)
    intro found
    split
    · exact .pure _
    · apply Absorbs.bind .scope
      intro scope
      apply Absorbs.observe
      intro state
      split
      · exact .pure _
      · split
        · exact .pure _
        · split <;> exact .pure _

theorem resolve_absorbs (variableExpected : Bool) (name : String) :
    (engine.resolve variableExpected name).Absorbs environment := by
  apply Absorbs.bind .check
  intro _
  apply Absorbs.bind .scope
  intro scope
  split
  · exact .pure _
  · apply Absorbs.observe
    intro state
    dsimp only
    split
    · exact .pure _
    · apply Absorbs.consult
      split
      · exact .pure _
      · split
        · refine Absorbs.bind (dottedValue?_absorbs calls standard noExternals _) ?_
          rintro (_ | value)
          · dsimp only
            split <;> exact .pure _
          · exact .pure _
        · refine Absorbs.bind (.pure none) ?_
          rintro (_ | value)
          · dsimp only
            split <;> exact .pure _
          · exact .pure _

end

end Engine

/-! ## Compiled loops -/

namespace Eval

variable {environment : Environment}

theorem offerLoop_absorbs (loop : Statement) : (offerLoop loop).Absorbs environment := by
  intro state fault escaped
  have offered := offerLoop_offered environment state loop
  unfold outcome at escaped
  generalize offerLoop loop environment state = ended at offered escaped
  cases offered with
  | fatal ticks lowers ran =>
      cases escaped
      exact Machine.isFatal_of_run ran
  | _ => cases escaped

end Eval

/-! ## Modules -/

namespace Module

open Eval (Absorbs)

variable {environment : Environment}

theorem bindProcedures_absorbs (procedures : List Procedure) :
    (bindProcedures procedures).Absorbs environment := by
  induction procedures with
  | nil => exact .pure _
  | cons procedure rest restAbsorbs => exact Absorbs.bind (.modify _) fun _ => restAbsorbs

theorem bindConstants_absorbs (constants : List (String × Expr)) :
    (bindConstants constants).Absorbs environment := by
  induction constants with
  | nil => exact .pure _
  | cons constant rest restAbsorbs =>
      apply Absorbs.bind (.attempt _)
      intro ended
      cases ended with
      | error => exact restAbsorbs
      | ok value => exact Absorbs.bind (.setVariable _ _) fun _ => restAbsorbs

theorem load_absorbs (source : Module) : source.load.Absorbs environment := by
  have finishes : (do
      bindConstants source.constants
      Eval.clearError : Eval Unit).Absorbs environment :=
    Absorbs.bind (bindConstants_absorbs _) fun _ => .modify _
  apply Absorbs.bind (bindProcedures_absorbs _)
  intro _
  dsimp only
  split
  · exact Absorbs.bind (Engine.runBlock_absorbs _ _) fun _ => finishes
  · exact finishes

theorem runEntry_absorbs (procedure : Procedure) (arguments : List Value) :
    (runEntry procedure arguments).Absorbs environment := by
  apply Absorbs.bind (.attempt _)
  intro _
  apply Absorbs.bind .mustHandleError
  intro pending
  dsimp only
  split
  · exact Absorbs.bind (.modify _) fun _ => .closeAllFiles
  · exact .closeAllFiles

theorem runEntries_absorbs (kind : String) (procedures : List Procedure) :
    (runEntries kind procedures).Absorbs environment := by
  induction procedures with
  | nil => exact .pure _
  | cons procedure rest restAbsorbs =>
      apply Absorbs.bind (.report _ _ _)
      intro _
      exact Absorbs.bind (runEntry_absorbs _ _) fun _ => restAbsorbs

theorem runAll_absorbs (source : Module) : source.runAll.Absorbs environment := by
  apply Absorbs.bind (load_absorbs source)
  intro _
  dsimp only
  split <;>
    exact Absorbs.bind (runEntries_absorbs _ _) fun _ =>
      Absorbs.bind (.pure _) fun _ => .observe fun _ => .pure _

end Module

theorem Emulator.perform_eq_outcome {α : Type} (emulator : Emulator) (action : Eval α) :
    (emulator.perform action).1 =
      action.outcome emulator.runEnvironment
        (State.start emulator.runEnvironment emulator.sink emulator.heap emulator.caches) := by
  unfold perform Eval.outcome
  dsimp only
  cases action emulator.runEnvironment
    (State.start emulator.runEnvironment emulator.sink emulator.heap emulator.caches) <;> rfl

/-! ## What becomes of a fault -/

/-- The state after a statement that ended in a fault. The fault is the error of the frame; an
undefined variable leaves no trace. -/
def State.noting (state : State) : Fault → State
  | .undefinedVariable _ => state
  | fault =>
      { state with
        run.errorCount := state.run.errorCount + 1
        run.lastError := { number := fault.number, description := fault.message }
        frame := state.frame.raisePending }

section

variable {engine : Engine} {environment : Environment} {state failed : State} {fault : Fault}

theorem Eval.eq_error_of_outcome {α : Type} {action : Eval α} {stop : Interruption}
    (ended : action.outcome environment state = .error stop) :
    action environment state = .error stop (action.after environment state) := by
  unfold outcome at ended
  unfold after
  split at ended
  · cases ended
  · rename_i ran
    cases ended
    rw [ran]

theorem Eval.attempt_of_fault {α : Type} {action : Eval α}
    (raised : action environment state = .error (.fault fault) failed)
    (caught : fault.isFatal = false) :
    Eval.attempt action environment state = .ok (.error fault) failed := by
  unfold attempt
  rw [raised]
  simp [caught]

theorem Engine.runBlock_of_fault {statement : Statement} (rest : List Statement) {ticked : State}
    (ticks : Eval.tick environment state = .ok () ticked)
    (raised : engine.runStatement statement environment ticked = .error (.fault fault) failed)
    (caught : fault.isFatal = false) :
    engine.runBlock (statement :: rest) environment state =
      if (failed.noting fault).frame.errorState = .pending then
        .ok .continue (failed.noting fault)
      else engine.runBlock rest environment (failed.noting fault) := by
  have goesOn (reached : State) : (do
      if ← Eval.mustHandleError then return Flow.continue
      engine.runBlock rest : Eval Flow) environment reached =
        if reached.frame.errorState = .pending then .ok .continue reached
        else engine.runBlock rest environment reached := by
    simp only [Eval.mustHandleError, Running.run_bind, Running.run_get, Running.run_pure,
      beq_iff_eq]
    split <;> rfl
  rw [runBlock, Running.run_bind, ticks]
  dsimp only
  rw [Running.run_bind, Eval.attempt_of_fault raised caught]
  cases fault with
  | undefinedVariable name => exact goesOn failed
  | runtime number message => exact goesOn (failed.noting (.runtime number message))
  | recursionLimit | timeout => cases caught

theorem Engine.receiverValue?_of_fault {receiver : Receiver} {outer : List Receiver}
    (inside : state.frame.receivers = receiver :: outer) (unknown : receiver.value = none)
    (raised : engine.node receiver.object environment (Eval.withoutReceiver state) =
      .error (.fault fault) failed)
    (caught : fault.isFatal = false) :
    engine.receiverValue? environment state =
      .ok (some .null)
        { failed with
          frame.receivers := { receiver with value := some .null } :: failed.frame.receivers } := by
  have left : Eval.popReceiver environment state = .ok () (Eval.withoutReceiver state) := rfl
  unfold receiverValue?
  rw [Running.run_bind, Running.run_get]
  simp only [inside, unknown]
  rw [Running.run_bind, left]
  dsimp only
  rw [Running.run_bind, Eval.afterwards, Eval.attempt_of_fault raised caught]
  rfl

theorem Module.bindConstants_of_fault {name : String} {expression : Expr}
    (rest : List (String × Expr))
    (raised : Eval.node expression environment state = .error (.fault fault) failed)
    (caught : fault.isFatal = false) :
    bindConstants ((name, expression) :: rest) environment state =
      bindConstants rest environment failed := by
  rw [bindConstants, Running.run_bind, Eval.attempt_of_fault raised caught]

end

/-! ## What becomes of a fault in a loop program -/

/-- The errors that emulated code and its handlers see are as they were. -/
structure State.KeepsErrors (before after : State) : Prop where
  lastError : after.run.lastError = before.run.lastError
  errorCount : after.run.errorCount = before.run.errorCount
  errorState : after.frame.errorState = before.frame.errorState
  errorMode : after.frame.errorMode = before.frame.errorMode

theorem State.keepsErrors_of_aside {before after : State} (same : after.aside = before.aside) :
    before.KeepsErrors after :=
  { lastError := congrArg Aside.lastError same
    errorCount := congrArg Aside.errorCount same
    errorState := congrArg Aside.errorState same
    errorMode := congrArg Aside.errorMode same }

/-- What faulted in a compiled loop is forgotten, and so the interpreter goes on as if nothing had
faulted. -/
theorem Eval.keepsErrors_compileLoop (environment : Environment) (state : State)
    (loop : Statement) :
    state.KeepsErrors ((Eval.compileLoop loop).after environment state) := by
  have merged (result : LoopResult) (certain : List (String × DeclaredType)) :
      state.KeepsErrors (state.mergeResult environment result certain) :=
    State.keepsErrors_of_aside (State.aside_mergeResult result certain)
  have refl : state.KeepsErrors state := State.keepsErrors_of_aside rfl
  -- What stands beside a state holds no errors.
  have beside {after : State} (kept : state.KeepsErrors after) (caches : Caches)
      (ticks : UInt64) : state.KeepsErrors (after.beside caches state.run.sink ticks) :=
    { kept with }
  have offered := Eval.offerLoop_offered environment state loop
  unfold after compileLoop
  rw [Running.run_bind]
  generalize offerLoop loop environment state = ended at offered
  cases offered with
  | dynamic | refused => exact refl
  | reused | completed => exact beside (merged _ _) _ _
  | _ => exact beside refl _ _

namespace Machine

/-- The state after a fault that a statement absorbed: it is counted, and nothing else is known of
it. -/
def State.counting (state : State) : State :=
  { state with faults := state.faults + 1 }

variable {calls : Calls} {setup : Setup} {fault : Fault}

theorem executeBlock_of_fault {nested : Bool} {guard : Guard} {statement : LoopStatement}
    {before failed : State} (rest : List LoopStatement)
    (raised : execute calls nested guard statement setup before = .error (.fault fault) failed) :
    executeBlock calls nested guard (statement :: rest) setup before =
      if setup.maxFaults < failed.counting.faults then .error (.halt .runaway) failed.counting
      else if guard = .skip then executeBlock calls nested guard rest setup failed.counting
      else .ok .faulted failed.counting := by
  have counts : countFault setup failed =
      (if setup.maxFaults < failed.counting.faults then throw (.halt .runaway) else pure () :
        Machine Unit) setup failed.counting := rfl
  rw [executeBlock, Running.run_bind, guarded, raised]
  dsimp only
  rw [counts]
  by_cases tooMany : setup.maxFaults < failed.counting.faults
  · simp only [if_pos tooMany, Running.run_throw]
  · simp only [if_neg tooMany, Running.run_pure]
    cases guard <;> rfl

variable {body : Machine Flow} {before after : State}

theorem rangeLoop_of_faulted {index : String} {finish step current : Value} {descending : Bool}
    {reached : State} (left : Nat) (loads : load index setup before = .ok current reached)
    (inside : pastEnd descending (compareValues reached.heap current finish) = false)
    (ran : (countIteration >>= fun _ => body) setup reached = .ok .faulted after) :
    rangeLoop body index finish step descending (left + 1) setup before = .ok .normal after := by
  obtain ⟨_, counted, counts, ran⟩ := Running.ok_of_bind ran
  simp only [rangeLoop, Running.run_bind, Running.run_get, loads, inside, Bool.false_eq_true,
    if_false, counts, ran, Running.run_pure]

theorem eachLoop_of_faulted {index : String} {item : Value} (rest : List Value)
    (ran : (do countIteration; store index item; body) setup before = .ok .faulted after) :
    eachLoop body index (item :: rest) setup before = .ok .normal after := by
  obtain ⟨_, counted, counts, ran⟩ := Running.ok_of_bind ran
  obtain ⟨_, stored, stores, ran⟩ := Running.ok_of_bind ran
  simp only [eachLoop, Running.run_bind, counts, stores, ran, Running.run_pure]

theorem conditionalLoop_of_faulted {condition : Machine Bool} {testFirst : Bool} {reached : State}
    (left : Nat) (holds : testWhen testFirst condition setup before = .ok true reached)
    (ran : (countIteration >>= fun _ => body) setup reached = .ok .faulted after) :
    conditionalLoop body condition testFirst (left + 1) setup before = .ok .normal after := by
  obtain ⟨_, counted, counts, ran⟩ := Running.ok_of_bind ran
  simp only [conditionalLoop, Running.run_bind, holds, Bool.not_true, Bool.false_eq_true, if_false,
    counts, ran, Running.run_pure]

/-- What a fault does in a loop program. The statement that faulted is skipped, or the innermost loop
around it ends, until too many faults end the run. -/
structure CountsFaults (calls : Calls) (setup : Setup) : Prop where
  block : ∀ nested guard statement rest before fault failed,
    execute calls nested guard statement setup before = .error (.fault fault) failed →
    executeBlock calls nested guard (statement :: rest) setup before =
      if setup.maxFaults < failed.counting.faults then .error (.halt .runaway) failed.counting
      else if guard = .skip then executeBlock calls nested guard rest setup failed.counting
      else .ok .faulted failed.counting
  rangeLoop : ∀ body index finish step descending left before reached current after,
    load index setup before = .ok current reached →
    pastEnd descending (compareValues reached.heap current finish) = false →
    (countIteration >>= fun _ => body) setup reached = .ok .faulted after →
    rangeLoop body index finish step descending (left + 1) setup before = .ok .normal after
  eachLoop : ∀ body index item rest before after,
    (do countIteration; store index item; body) setup before = .ok .faulted after →
    eachLoop body index (item :: rest) setup before = .ok .normal after
  conditionalLoop : ∀ body condition testFirst left before reached after,
    testWhen testFirst condition setup before = .ok true reached →
    (countIteration >>= fun _ => body) setup reached = .ok .faulted after →
    conditionalLoop body condition testFirst (left + 1) setup before = .ok .normal after

theorem countsFaults (calls : Calls) (setup : Setup) : CountsFaults calls setup :=
  { block := fun _ _ _ rest _ _ _ raised => executeBlock_of_fault rest raised
    rangeLoop := fun _ _ _ _ _ left _ _ _ _ loads inside ran =>
      rangeLoop_of_faulted left loads inside ran
    eachLoop := fun _ _ _ rest _ _ ran => eachLoop_of_faulted rest ran
    conditionalLoop := fun _ _ _ left _ _ _ holds ran => conditionalLoop_of_faulted left holds ran }

end Machine

/-! ## The whole interpreter -/

/-- Only the exhaustion of a resource leaves the interpreter: blocks, calls, handlers, compiled
loops, the loading of a module and its run end with a fatal fault or with none, and so do names where
the library is the standard one and no external function is declared. Any other fault of a statement
that is interpreted becomes the error of the frame, except that of an undefined variable, which
leaves no trace; in a loop program it is counted and recorded nowhere. The object of a `With` block
that cannot be evaluated is null, and a constant of a module that cannot be evaluated is left
out. -/
theorem Eval.only_fatal_faults_escape :
    (∀ environment statements, (Eval.block statements).Absorbs environment) ∧
      (∀ environment procedure arguments, (Eval.call procedure arguments).Absorbs environment) ∧
      (∀ environment, Eval.handleError.Absorbs environment) ∧
      (∀ environment loop, (Eval.compileLoop loop).Absorbs environment) ∧
      (∀ (emulator : Emulator) (fault : Fault),
        (emulator.perform emulator.source.load).1 = .error (.fault fault) ∨
            emulator.run.1 = .error (.fault fault) →
          fault.isFatal = true) ∧
      (∀ environment : Environment, environment.library = .standard →
        (∀ name, environment.externals.get? name = none) →
        ∀ variableExpected name, (Eval.resolve variableExpected name).Absorbs environment) ∧
      (∀ calls setup, Machine.CountsFaults calls setup) ∧
      (∀ environment state loop,
        State.KeepsErrors state ((Eval.compileLoop loop).after environment state)) ∧
      ∀ (engine : Engine) (environment : Environment) (state failed : State) (fault : Fault),
        fault.isFatal = false →
        (∀ statement rest ticked, Eval.tick environment state = .ok () ticked →
          engine.runStatement statement environment ticked = .error (.fault fault) failed →
          engine.runBlock (statement :: rest) environment state =
            if (failed.noting fault).frame.errorState = .pending then
              .ok .continue (failed.noting fault)
            else engine.runBlock rest environment (failed.noting fault)) ∧
        (∀ receiver outer, state.frame.receivers = receiver :: outer → receiver.value = none →
          engine.node receiver.object environment (Eval.withoutReceiver state) =
            .error (.fault fault) failed →
          engine.receiverValue? environment state =
            .ok (some .null)
              { failed with
                frame.receivers :=
                  { receiver with value := some .null } :: failed.frame.receivers }) ∧
        (∀ name expression rest,
          Eval.node expression environment state = .error (.fault fault) failed →
          Module.bindConstants ((name, expression) :: rest) environment state =
            Module.bindConstants rest environment failed) := by
  have blocks (environment : Environment) :=
    @Engine.blocksAbsorb_within environment Engine.maxNesting
  have calls (environment : Environment) : ∀ procedure arguments,
      (Engine.interpreter.call procedure arguments).Absorbs environment :=
    fun procedure arguments => Engine.callProcedure_absorbs (Engine.blocksAbsorb_within _) _ _
  refine ⟨?_, ?_, ?_, ?_, ?_, ?_, Machine.countsFaults, Eval.keepsErrors_compileLoop, ?_⟩
  · exact fun environment statements => Engine.runBlock_absorbs _ statements
  · exact fun environment => Engine.callProcedure_absorbs (blocks environment)
  · exact fun environment => Engine.handleError_absorbs (blocks environment)
  · exact fun environment loop => (Eval.offerLoop_absorbs loop).map _
  · intro emulator fault escaped
    rcases escaped with loading | running
    · rw [Emulator.perform_eq_outcome] at loading
      exact Module.load_absorbs _ _ _ loading
    · exact Module.runAll_absorbs _ _ _
        ((emulator.perform_eq_outcome emulator.source.runAll).symm.trans running)
  · exact fun environment standard noExternals =>
      Engine.resolve_absorbs (calls environment) standard noExternals
  · intro engine environment state failed fault caught
    refine ⟨?_, ?_, ?_⟩
    · exact fun statement rest ticked ticks raised =>
        Engine.runBlock_of_fault rest ticks raised caught
    · exact fun receiver outer inside unknown raised =>
        Engine.receiverValue?_of_fault inside unknown raised caught
    · exact fun name expression rest raised => Module.bindConstants_of_fault rest raised caught

private def raisingStatement : Statement :=
  .call (.call (.member (.var "Err") "Raise") [.literal (.integer 5)])

private def hurried : Environment :=
  { policy := { maxExecutionTime := { seconds := 0 } } }

private def freshState (environment : Environment) : State :=
  State.start environment none {} {}

/-- A block without time ends with a fatal fault, the path of a function is read without one that is
not, and an error that a statement raises stops the block around it. -/
theorem Eval.only_fatal_faults_escape_hurried :
    (Eval.block [raisingStatement]).outcome hurried (freshState hurried) =
        .error (.fault .timeout) ∧
      Fault.timeout.isFatal = true ∧
      (Eval.resolve true "App.Timer").Absorbs {} ∧
      (let ticked := (freshState {}).withTicks 1
        let failed := (Eval.statement raisingStatement).after {} ticked
        let fault := raisedFault {} [.integer 5]
        (failed.noting fault).frame.errorState = .pending ∧
          Eval.block [raisingStatement, .exit .sub] {} (freshState {}) =
            .ok .continue (failed.noting fault)) := by
  have ended : (Eval.block [raisingStatement]).outcome hurried (freshState hurried) =
      .error (.fault .timeout) := by decide +kernel
  have raised : (Eval.statement raisingStatement).outcome {} ((freshState {}).withTicks 1) =
      .error (.fault (raisedFault {} [.integer 5])) := by decide +kernel
  have pending : (((Eval.statement raisingStatement).after {} ((freshState {}).withTicks 1)).noting
      (raisedFault {} [.integer 5])).frame.errorState = .pending := by decide +kernel
  obtain ⟨blocks, -, -, -, -, names, -, -, faults⟩ := Eval.only_fatal_faults_escape
  refine ⟨ended, blocks _ _ _ _ ended, names {} rfl (fun _ => rfl) true _, pending, ?_⟩
  have ticks : Eval.tick {} (freshState {}) = .ok () ((freshState {}).withTicks 1) := rfl
  have noted := (faults Engine.interpreter {} (freshState {}) _ _ rfl).1 raisingStatement
    [.exit .sub] _ ticks (Eval.eq_error_of_outcome raised)
  exact noted.trans (if_pos pending)

private def undefinedTarget : Statement :=
  .assign (.call (.var "Mid") [.var "nosuch", .literal (.integer 1)]) (.literal (.text "x"))

private def failingDivision : Statement :=
  .assign (.var "bad") (.binary .divide (.literal (.integer 1)) (.literal (.integer 0)))

private def failingLoop : Statement :=
  .forRange "i" (.literal (.integer 1)) (.literal (.integer 3)) none [failingDivision]

/-- The fault of an undefined variable ends in no error state, and neither does a division by zero
in a compiled loop. -/
theorem Eval.block_drops_undefined_variable :
    (Eval.statement undefinedTarget).outcome {} (freshState {}) =
        .error (.fault (.undefinedVariable "nosuch")) ∧
      (Fault.undefinedVariable "nosuch").isFatal = false ∧
      (Eval.block [undefinedTarget]).outcome {} (freshState {}) = .ok .continue ∧
      ((Eval.block [undefinedTarget]).after {} (freshState {})).frame.errorState = .clear ∧
      ((Eval.block [undefinedTarget]).after {} (freshState {})).run.errorCount = 0 ∧
      ((Eval.block [undefinedTarget]).after {} (freshState {})).run.lastError = {} ∧
      (Eval.statement failingDivision).outcome {} (freshState {}) =
        .error (.fault .divisionByZero) ∧
      (Eval.block [failingLoop]).outcome {} (freshState {}) = .ok .continue ∧
      ((Eval.block [failingLoop]).after {} (freshState {})).frame.errorState = .clear ∧
      ((Eval.block [failingLoop]).after {} (freshState {})).run.errorCount = 0 := by
  decide +kernel

end MacroSandbox
