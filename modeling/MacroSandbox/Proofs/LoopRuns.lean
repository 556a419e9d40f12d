import MacroSandbox.Proofs.LoopPrograms
import MacroSandbox.Proofs.LoopSimulation

/-! Both sides of a loop over plain values and lists of them, from their first states: the interpreter
and the machine run the loop in step, unless it has more rounds than the machine may run. -/

namespace MacroSandbox

/-! ## Limits at the start

An interpretation that ends well has checked the depth of calls, so the machine may start. -/

namespace Limiter

variable {limiter : Limiter}

theorem depth_le_of_check (checks : limiter.check = .ok ()) : limiter.depth ≤ limiter.maxDepth := by
  simp only [check] at checks
  split at checks
  · cases checks
  · omega

theorem depth_le_of_tick (ticks : limiter.tick.1 = .ok ()) : limiter.depth ≤ limiter.maxDepth := by
  simp only [tick] at ticks
  split at ticks
  · cases ticks
  · omega

end Limiter

def State.IsWithinDepth (state : State) : Prop :=
  state.run.limiter.depth ≤ state.run.limiter.maxDepth

namespace Engine

variable {environment : Environment} {state after : State} {levels : Nat}

theorem isWithinDepth_of_operand {expression : Expr} {value : Value}
    (ran : (within levels).operand expression environment state = .ok value after) :
    state.IsWithinDepth := by
  obtain ⟨fewer, ran⟩ := exists_operandValue_of_operand ran
  simp only [operandValue] at ran
  obtain ⟨_, middle, checks, _⟩ := Running.ok_of_bind ran
  simp only [Eval.check] at checks
  split at checks
  · exact Limiter.depth_le_of_check ‹_›
  · cases checks

theorem isWithinDepth_of_testWhen {condition : Option (LoopTest × Expr)} {tested answer : Bool}
    (ran : (within levels).testWhen tested condition environment state = .ok answer after) :
    state.IsWithinDepth ∨ (answer = true ∧ after = state) := by
  cases tested with
  | false =>
      cases ran
      exact .inr ⟨rfl, rfl⟩
  | true =>
      match condition with
      | none =>
          cases ran
          exact .inr ⟨rfl, rfl⟩
      | some (.while, condition) | some (.until, condition) =>
          simp only [testWhen, wantsRound, reduceIte] at ran
          obtain ⟨value, middle, found, _⟩ := Running.ok_of_bind ran
          exact .inl (isWithinDepth_of_operand found)

theorem isWithinDepth_of_bodiesOfBlock? {statement : Statement} {rest : List Statement}
    {count : Nat}
    (counts : Statement.bodiesOfBlock? environment levels (statement :: rest) state = some count) :
    state.IsWithinDepth := by
  cases levels with
  | zero => simp [Statement.bodiesOfBlock?] at counts
  | succ levels =>
      simp only [Statement.bodiesOfBlock?] at counts
      split at counts
      · rename_i ticked ticks
        simp only [Eval.tick] at ticks
        split at ticks
        · exact Limiter.depth_le_of_tick ‹_›
        · cases ticks
      · cases counts

/-- A loop with a condition whose bodies can be counted checks the depth: in its condition, or at the
first statement of its body. Without either it would not end. -/
theorem isWithinDepth_of_conditionalBodies? {condition : Option (LoopTest × Expr)}
    {testFirst : Bool} {body : List Statement} (notPending : state.frame.errorState ≠ .pending) :
    ∀ {rounds count : Nat},
      (within levels).conditionalBodies? environment condition testFirst body
        (Statement.bodiesOfBlock? environment levels body) rounds state = some count →
      state.IsWithinDepth := by
  intro rounds
  induction rounds with
  | zero =>
      intro count counts
      rw [conditionalBodies?] at counts
      split at counts
      · exact (isWithinDepth_of_testWhen ‹_›).resolve_right (by simp)
      · cases counts
      · cases counts
  | succ rounds induction =>
      intro count counts
      rw [conditionalBodies?] at counts
      split at counts
      · exact (isWithinDepth_of_testWhen ‹_›).resolve_right (by simp)
      · rename_i tested tests
        rcases isWithinDepth_of_testWhen tests with isWithin | ⟨-, rfl⟩
        · exact isWithin
        · simp only [Option.bind_eq_bind, Option.bind_eq_some_iff] at counts
          obtain ⟨inside, countsInside, others, counts, _⟩ := counts
          cases body with
          | cons statement rest => exact isWithinDepth_of_bodiesOfBlock? countsInside
          | nil =>
              cases levels with
              | zero => simp [Statement.bodiesOfBlock?] at countsInside
              | succ levels =>
                  have ran : (within (levels + 1)).runBody [] .exitDo environment tested =
                      .ok .repeat tested := by
                    have pending : (tested.frame.errorState == .pending) = false := by
                      simpa using notPending
                    simp only [runBody, within, runBlock, Running.run_bind, Running.run_pure,
                      Eval.mustHandleError, Running.run_get, pending]
                    rfl
                  rw [ran] at counts
                  dsimp only at counts
                  split at counts
                  · exact (isWithinDepth_of_testWhen ‹_›).resolve_right (by simp)
                  · rename_i next testsNext
                    rcases isWithinDepth_of_testWhen testsNext with isWithin | ⟨-, rfl⟩
                    · exact isWithin
                    · exact induction counts
                  · cases counts
      · cases counts

theorem isWithinDepth_of_bodies? {loop : Statement} {terms : LoopTerms} {bound : List String}
    {count : Nat} (notPending : state.frame.errorState ≠ .pending) (isLoop : loop.isLoop = true)
    (computes : loop.computesWith terms bound = true)
    (counts : loop.bodies? environment levels state = some count) :
    state.IsWithinDepth := by
  cases loop <;> try cases isLoop
  case forRange index start finish step body =>
    simp only [Statement.bodies?] at counts
    split at counts
    · rename_i starts
      simp only [startRange] at starts
      obtain ⟨value, middle, found, _⟩ := Running.ok_of_bind starts
      exact isWithinDepth_of_operand found
    · cases counts
  case forEach => simp [Statement.computesWith] at computes
  case whileLoop condition body => exact isWithinDepth_of_conditionalBodies? notPending counts
  case doLoop condition testFirst body =>
    exact isWithinDepth_of_conditionalBodies? notPending counts

end Engine

/-! ## Both sides from their first states -/

def Environment.interpreting (environment : Environment) : Environment :=
  { environment with policy.compileLoops := false }

def Caller.boundNames (caller : Caller) (loop : Statement) : List String :=
  (caller.scalarNames loop).filter fun name => (caller.scope.get? name).isSome

/-- A loop that computes with plain values and with elements of lists, in a state in which nothing
stands between it and the machine: no list that it writes has another name in it, the numbers of its
constant expressions are told apart, and there is no document text and no error that waits to be
handled. -/
structure IsElementLoop (environment : Environment) (state : State) (loop : Statement)
    (constants : Value → Bool) : Prop where
  isLoop : loop.isLoop = true
  computes : loop.computesWith ((state.caller environment).terms loop constants)
    ((state.caller environment).boundNames loop) = true
  flat : (state.caller environment).HoldsFlat loop
  unshared : ∀ name ∈ ((state.caller environment).terms loop constants).changed,
    ∀ other ∈ (state.caller environment).listNames loop,
      (state.scope environment).get? name = (state.scope environment).get? other → name = other
  toldApart : Value.AreToldApart (constants · = true)
  remembers : ((state.caller environment).terms loop constants).AreRemembered state.caches
  noText : environment.text = {}
  notPending : state.frame.errorState ≠ .pending

def LoopPair.ofProgram (environment : Environment) (state : State) (loop : Statement)
    (constants : Value → Bool) (program : LoopProgram) : LoopPair where
  environment := environment.interpreting
  state := state
  setup :=
    { program
      maxIterations := environment.policy.maxCompiledIterations
      maxFaults := environment.policy.maxLoopFaults }
  machine := Machine.start program state.heap state.run.limiter
  scalars := (state.caller environment).scalarNames loop
  terms := (state.caller environment).terms loop constants

namespace IsElementLoop

variable {environment : Environment} {state : State} {loop : Statement} {constants : Value → Bool}
  {lowered : Lowered} {name : String}

theorem exists_started (element : IsElementLoop environment state loop constants)
    (lowers : (state.caller environment).lower? loop = some lowered)
    (isScalar : name ∈ (state.caller environment).scalarNames loop) :
    ∃ value : Value, value.isReference = false ∧
      (Machine.start lowered.program state.heap state.run.limiter).store.get? name = some value ∧
      ((state.scope environment).get? name = some value ∨
        (state.scope environment).get? name = none) := by
  have program := Caller.isFlatProgram_of_lower? lowers element.flat
  obtain ⟨value, copy, bound, stored, isCopy⟩ :=
    (Machine.start_of_flat program element.flat state.run.limiter).1 name (.inl isScalar)
  have scalar : value.isReference = false := by
    rcases bound with bound | ⟨_, scalar⟩
    · exact Value.isReference_of_isPlain ((element.flat.scalars name isScalar).isPlain value bound)
    · exact scalar
  rcases isCopy with ⟨_, rfl⟩ | ⟨_, _, rfl, _⟩
  · exact ⟨copy, scalar, stored, bound.imp_right And.left⟩
  · cases scalar

theorem exists_copied (element : IsElementLoop environment state loop constants)
    (lowers : (state.caller environment).lower? loop = some lowered)
    (isList : Text.asciiLower name ∈ (state.caller environment).listNames loop) :
    ∃ place copy, (LoopPair.ofProgram environment state loop constants lowered.program).Copies name
        place copy ∧ place < state.heap.lists.size ∧
      copy < (Machine.start lowered.program state.heap state.run.limiter).heap.lists.size ∧
      LoopPair.ItemsAgree state.heap
        (Machine.start lowered.program state.heap state.run.limiter).heap place copy := by
  have program := Caller.isFlatProgram_of_lower? lowers element.flat
  obtain ⟨place, holds⟩ := element.flat.lists _ isList
  obtain ⟨value, copy, bound, stored, isCopy⟩ :=
    (Machine.start_of_flat program element.flat state.run.limiter).1 _ (.inr isList)
  have same : value = .list place := by
    rcases bound with bound | ⟨unbound, _⟩
    · exact Option.some.inj (bound.symm.trans holds.bound)
    · cases unbound.symm.trans holds.bound
  subst same
  rcases isCopy with ⟨scalar, _⟩ | ⟨_, here, same, rfl, _, inside, items⟩
  · cases scalar
  · cases same
    have named : (state.scope environment).value? name = some (.list place) := by
      have bound := holds.bound
      rw [Scope.get?_eq_value? holds.plainName, Scope.value?_asciiLower] at bound
      exact bound
    exact ⟨place, here, ⟨named, stored⟩, holds.owned, inside, items, holds.areScalar, holds.few⟩

theorem isUnhindered (element : IsElementLoop environment state loop constants)
    (lowers : (state.caller environment).lower? loop = some lowered) (depth : state.IsWithinDepth) :
    (LoopPair.ofProgram environment state loop constants lowered.program).IsUnhindered where
  interprets := rfl
  noText := element.noText
  notPending := element.notPending
  depth := depth
  limiter := rfl
  root := rfl
  plain name isVariable := (element.flat.scalars _ isVariable).plainName.of_asciiLower
  plainLists name isList :=
    let ⟨_, holds⟩ := element.flat.lists _ isList
    holds.plainName.of_asciiLower
  assigned name isAssigned := by
    obtain ⟨isWritten, noList⟩ := Caller.mem_assigned_iff.1 isAssigned
    exact Caller.mem_scalarNames_of_writes isWritten noList
  changed name isChanged := (Caller.mem_changed_iff.1 isChanged).2
  apart name isList isAssigned := (Caller.mem_assigned_iff.1 isAssigned).2 isList
  toldApart := element.toldApart
  types name isVariable heap value := by
    have program := Caller.isFlatProgram_of_lower? lowers element.flat
    have same := program.types _ (.inl isVariable) heap value
    rwa [NameMap.get?_asciiLower] at same
  copied name isList := by
    obtain ⟨place, copy, copies, hasPlace, hasCopy, _⟩ := element.exists_copied lowers isList
    exact ⟨place, copy, copies, hasPlace, hasCopy⟩
  distinct isList isOther copies otherCopies := by
    have program := Caller.isFlatProgram_of_lower? lowers element.flat
    exact (Machine.start_of_flat program element.flat state.run.limiter).2 rfl copies.2
      otherCopies.2
  unshared {name other place copy otherCopy} isChanged isOther copies otherCopies := by
    refine element.unshared _ isChanged _ isOther ?_
    have isList := (Caller.mem_changed_iff.1 isChanged).2
    -- That lists are not shared is known of what names read; plain names mean what they read.
    obtain ⟨_, holds⟩ := element.flat.lists _ isList
    obtain ⟨_, otherHolds⟩ := element.flat.lists _ isOther
    have named := copies.1
    have otherNamed := otherCopies.1
    rw [Scope.get?_eq_value? holds.plainName, Scope.get?_eq_value? otherHolds.plainName,
      Scope.value?_asciiLower, Scope.value?_asciiLower]
    exact named.trans otherNamed.symm

theorem knows (element : IsElementLoop environment state loop constants)
    (lowers : (state.caller environment).lower? loop = some lowered) :
    (LoopPair.ofProgram environment state loop constants lowered.program).lockStep.Knows
      ⟨state.caller environment, lowered.program.prologue, none, none⟩
      ((state.caller environment).boundNames loop) := by
  have program := Caller.isFlatProgram_of_lower? lowers element.flat
  have isVariable {name : String}
      (isScalar : name ∈ (state.caller environment).scalarNames loop) :
      LoweringContext.isVariable
        ⟨state.caller environment, lowered.program.prologue, none, none⟩ name = true := by
    obtain ⟨value, found, _⟩ := program.prologue name (.inl isScalar)
    rw [Std.TreeMap.get?_eq_getElem?] at found
    rw [LoweringContext.isVariable, Std.TreeMap.contains_eq_isSome_getElem?, found]
    exact Bool.or_true _
  have isIndexable {name : String} (isList : name ∈ (state.caller environment).listNames loop) :
      LoweringContext.isIndexable
        ⟨state.caller environment, lowered.program.prologue, none, none⟩ name = true := by
    obtain ⟨place, holds⟩ := element.flat.lists name isList
    obtain ⟨value, found, bound | ⟨unbound, _⟩⟩ := program.prologue name (.inr isList)
    · obtain rfl : value = .list place := Option.some.inj (bound.symm.trans holds.bound)
      simp only [LoweringContext.isIndexable, found, Bool.or_true]
    · cases unbound.symm.trans holds.bound
  exact
    { outside := rfl
      areVariables := fun name isBound => isVariable (List.mem_filter.1 isBound).1
      areAssigned := fun name isAssigned =>
        let ⟨isWritten, noList⟩ := Caller.mem_assigned_iff.1 isAssigned
        isVariable (Caller.mem_scalarNames_of_writes isWritten noList)
      areIndexable := fun name isList => isIndexable isList
      areChanged := fun name isChanged => isIndexable (Caller.mem_changed_iff.1 isChanged).2 }

theorem inStep (element : IsElementLoop environment state loop constants)
    (lowers : (state.caller environment).lower? loop = some lowered) :
    (LoopPair.ofProgram environment state loop constants lowered.program).InStep
      ((state.caller environment).boundNames loop) state
      (Machine.start lowered.program state.heap state.run.limiter) where
  varies := .refl state
  varied := rfl
  remembers := element.remembers
  areVariables name isBound := (List.mem_filter.1 isBound).1
  values name isVariable := by
    obtain ⟨value, scalar, stored, bound⟩ := element.exists_started lowers isVariable
    have sameValue : (state.scope environment).get? (Text.asciiLower name) =
        (state.scope environment).value? name := by
      rw [Scope.get?_eq_value? (element.flat.scalars _ isVariable).plainName,
        Scope.value?_asciiLower]
    refine ⟨value, scalar, stored, ?_⟩
    rcases bound with bound | unbound
    · exact .inl ⟨sameValue.symm.trans bound, .inr (sameValue.symm.trans bound)⟩
    · refine .inr ⟨sameValue.symm.trans unbound, fun isBound => ?_⟩
      have isSome : ((state.scope environment).get? (Text.asciiLower name)).isSome = true :=
        (List.mem_filter.1 isBound).2
      rw [unbound] at isSome
      cases isSome
  kept _ _ := rfl
  keptInStore _ _ := rfl
  lists {name place copy} isList copies := by
    obtain ⟨_, _, same, _, _, agree⟩ := element.exists_copied lowers isList
    obtain ⟨⟩ := Option.some.inj (copies.1.symm.trans same.1)
    obtain ⟨⟩ := Option.some.inj (copies.2.symm.trans same.2)
    exact agree
  heap := rfl
  listsSize := rfl
  copiesSize := rfl
  others _ _ := rfl

/-- The interpretation of a loop and the run of its program end well and in step, unless the machine
gives up because the loop has too many rounds or there is a deadline. -/
theorem runs (element : IsElementLoop environment state loop constants)
    (lowers : (state.caller environment).lower? loop = some lowered) {count : Nat}
    (counts : loop.bodies? environment.interpreting Engine.maxNesting state = some count) :
    ((environment.policy.maxCompiledIterations < count ∨ state.run.limiter.deadline.isSome = true) ∧
      ∃ halt final, Machine.run lowered.program environment.policy state.heap state.run.limiter =
        (.error halt, final)) ∨
    ∃ interpreted final,
      Eval.statement loop environment.interpreting state = .ok .continue interpreted ∧
        Machine.run lowered.program environment.policy state.heap state.run.limiter =
          (.ok (Machine.result lowered.program final), final) ∧
        (LoopPair.ofProgram environment state loop constants lowered.program).InStep
          ((state.caller environment).boundNames loop) interpreted final := by
  have depth := Engine.isWithinDepth_of_bodies? element.notPending element.isLoop element.computes
    counts
  have program := Caller.isFlatProgram_of_lower? lowers element.flat
  have sound := (element.isUnhindered lowers depth).isSound
  -- The start is in step, and from there the program follows the loop to its end.
  have ends := LockStep.follows_statement sound (element.knows lowers) element.computes
    program.body Engine.maxNesting
    (Machine.callFunction (state.run.limiter.maxDepth - state.run.limiter.depth)) false .skip state
    (Machine.start lowered.program state.heap state.run.limiter) count counts
    (element.inStep lowers)
  have started : (Machine.start lowered.program state.heap state.run.limiter).iterations = 0 := rfl
  rcases ends.outcomes with
    ⟨halt, final, executed, stops⟩ |
    ⟨flow, interpreted, machineFlow, final, more, ran, executed, alike, inStep, _⟩
  · rw [started, Nat.zero_add] at stops
    refine .inl ⟨stops, halt, final, ?_⟩
    simp only [LoopPair.lockStep, LoopPair.ofProgram] at executed
    simp only [Machine.run]
    rw [executed]
  · cases alike with
    -- No loop is around this one, so no exit leaves it.
    | exitFor inside | exitDo inside => cases inside
    | normal =>
        refine .inr ⟨interpreted, final, ran, ?_,
          sound.weaken (fun _ isBound => List.mem_append_right _ isBound) inStep⟩
        simp only [LoopPair.lockStep, LoopPair.ofProgram] at executed
        simp only [Machine.run]
        rw [executed]

end IsElementLoop

end MacroSandbox
