import MacroSandbox.Proofs.LoopResults

/-! Compiled and interpreted loops agree: a plain loop that the interpreter runs without a fault, and
for few enough rounds, leaves all names with the same values if it is compiled. -/

namespace MacroSandbox

/-! ## Plain loops in plain states -/

/-- A name is that of a variable with a plain value: it is plain, no procedure has it, and the type
that is known for it leaves the value as it is. -/
structure State.HoldsPlain (state : State) (environment : Environment) (name : String) : Prop where
  plainName : IsPlainName name
  noProcedure : (state.scope environment).procedure? name = none
  plainValue : ∃ value, (state.scope environment).get? name = some value ∧ value.isPlain = true ∧
    state.heap.coerceTo (state.frame.types.get? name) value = value

/-- A plain loop that the compiler accepts, and a state in which its variables hold plain values and
nothing stands between it and the machine: there is no `With` block, no document text, no deadline and no
loop that is remembered. -/
structure IsComparable (environment : Environment) (state : State) (loop : Statement) : Prop where
  isLoop : loop.isLoop = true
  plain : loop.isPlain = true
  plainVariables : ∀ name ∈ loop.variableNames, state.HoldsPlain environment name
  noReceivers : state.frame.receivers = []
  noText : environment.text = {}
  untimed : state.run.limiter.deadline = none
  noneRemembered : state.caches.loops.isEmpty = true
  isStatic : hasDynamicCode (loop.render state.heap) = false
  isLowered : ((state.caller environment).lower? loop).isSome = true

namespace IsComparable

variable {environment : Environment} {state : State} {loop : Statement} {name : String}

theorem noCallees (comparable : IsComparable environment state loop) :
    (Node.statement loop).reads.callees = [] :=
  Node.IsPlain.callees_eq_nil comparable.plain

theorem listNames_eq_nil (comparable : IsComparable environment state loop) :
    (state.caller environment).listNames loop = [] := by
  have noReceiver : (state.caller environment).receiverVariable? = none := by
    simp [Caller.receiverVariable?, State.caller, Frame.receiverName?, comparable.noReceivers]
  simp [Caller.listNames, noReceiver, comparable.noCallees]

theorem mem_scalarNames_iff (comparable : IsComparable environment state loop) :
    name ∈ (state.caller environment).scalarNames loop ↔ name ∈ loop.variableNames := by
  have noReceiver : (state.caller environment).receiverVariable? = none := by
    simp [Caller.receiverVariable?, State.caller, Frame.receiverName?, comparable.noReceivers]
  simp [Caller.scalarNames, comparable.listNames_eq_nil, noReceiver, Statement.variableNames]

theorem mem_boundNames (comparable : IsComparable environment state loop)
    (isVariable : name ∈ loop.variableNames) :
    name ∈ (state.caller environment).boundNames loop := by
  obtain ⟨value, bound, _⟩ := (comparable.plainVariables name isVariable).plainValue
  refine List.mem_filter.2 ⟨comparable.mem_scalarNames_iff.2 isVariable, ?_⟩
  have bound : (state.caller environment).scope.get? name = some value := bound
  rw [bound]
  rfl

theorem isElementLoop (comparable : IsComparable environment state loop)
    (notPending : state.frame.errorState ≠ .pending) :
    IsElementLoop environment state loop fun _ => false where
  isLoop := comparable.isLoop
  computes := by
    refine Statement.computesWith_of_isPlain comparable.plain ⟨fun name contains => ?_, ?_⟩
    · obtain isVariable | isCallee := Node.mem_reads_iff.2 ⟨name, contains, rfl⟩
      · exact comparable.mem_boundNames (List.mem_append_left _ isVariable)
      · rw [comparable.noCallees] at isCallee
        cases isCallee
    · intro node inside name written
      have isWritten : name ∈ (Node.statement loop).writes :=
        List.mem_filterMap.2 ⟨node, Node.mem_nodes_iff.2 inside, written⟩
      exact Caller.mem_assigned_iff.2 ⟨isWritten, by simp [comparable.listNames_eq_nil]⟩
  flat :=
    { scalars := fun name isScalar => by
        have holds := comparable.plainVariables name (comparable.mem_scalarNames_iff.1 isScalar)
        obtain ⟨value, bound, plain, _⟩ := holds.plainValue
        have bound : (state.caller environment).scope.get? name = some value := bound
        exact
          { plainName := holds.plainName
            noProcedure := holds.noProcedure
            notCallable := by simp [Caller.isCallable, bound]
            isPlain := fun held means => by
              obtain rfl := Option.some.inj (bound.symm.trans means)
              exact plain }
      lists := fun name isList => by
        rw [comparable.listNames_eq_nil] at isList
        cases isList }
  unshared name _ other isList := by
    rw [comparable.listNames_eq_nil] at isList
    cases isList
  toldApart := by constructor <;> (intro _ _ impossible; cases impossible)
  remembers _ impossible := by cases impossible
  noText := comparable.noText
  notPending := notPending

end IsComparable

/-! ## Agreement -/

namespace State

/-- Two states agree: all names have the same values, and the states differ in nothing else but where
the values are bound, the caches, the indicators that were found and the ticks of the limiter. -/
structure AgreesIn (environment : Environment) (left right : State) : Prop where
  values : ∀ name, (left.scope environment).get? name = (right.scope environment).get? name
  varies : { left with caches := right.caches }.Varies right

namespace Varies

variable {before after : State}

theorem symm (varies : before.Varies after) : after.Varies before := by
  unfold Varies at *
  rw [varies]

theorem withCaches (varies : before.Varies after) (caches : Caches) :
    { before with caches }.Varies { after with caches } := by
  unfold Varies at *
  rw [varies]

end Varies

theorem IsUntouched.varies {before after : State} (untouched : before.IsUntouched after) :
    { before with caches := after.caches }.Varies after := by
  unfold Varies
  rw [untouched]

end State

namespace IsComparable

variable {environment : Environment} {state started interpreted returned : State} {loop : Statement}
  {lowered : Lowered} {final : Machine.State}

theorem varies_of_inStep (comparable : IsComparable environment state loop)
    (inStep : (LoopPair.ofProgram environment state loop (fun _ => false) lowered.program).InStep
      ((state.caller environment).boundNames loop) interpreted final) :
    { state with caches := interpreted.caches }.Varies interpreted := by
  have lists : interpreted.heap.lists = state.heap.lists := by
    refine Array.ext_getElem? fun place => inStep.others place fun name isChanged => ?_
    have isList := (Caller.mem_changed_iff.1 isChanged).2
    rw [comparable.listNames_eq_nil] at isList
    cases isList
  have heap : interpreted.heap = state.heap := by
    rw [inStep.heap, lists]
    rfl
  have varies := inStep.varies
  unfold State.VariesInData at varies
  rw [heap] at varies
  exact varies

section

variable (comparable : IsComparable environment state loop)
  (notPending : state.frame.errorState ≠ .pending)
  (lowers : (state.caller environment).lower? loop = some lowered)

include comparable notPending lowers

theorem value?_eq
    (inStep : (LoopPair.ofProgram environment state loop (fun _ => false) lowered.program).InStep
      ((state.caller environment).boundNames loop) interpreted final)
    (untouched : state.IsUntouched started)
    (isReturned : State.IsReturned environment final.heap final.store.get?
      lowered.program.captures.toList started returned) (name : String) :
    (returned.scope environment).value? name = (interpreted.scope environment).value? name := by
  have element := comparable.isElementLoop notPending
  rcases element.value?_of_isReturned lowers inStep untouched isReturned name with
    same | ⟨isScalar, value, _, written, ⟨named, original⟩ | ⟨_, unbound⟩⟩
  · exact same
  · have isVariable := comparable.mem_scalarNames_iff.1 isScalar
    have holds := comparable.plainVariables _ isVariable
    obtain ⟨held, bound, _, stable⟩ := holds.plainValue
    rw [Scope.get?_eq_value? holds.plainName, Scope.value?_asciiLower, original] at bound
    obtain rfl := Option.some.inj bound
    rw [NameMap.get?_asciiLower] at stable
    rw [written, stable, named]
  · exact absurd (comparable.mem_boundNames (comparable.mem_scalarNames_iff.1 isScalar)) unbound

theorem varies_of_isReturned
    (inStep : (LoopPair.ofProgram environment state loop (fun _ => false) lowered.program).InStep
      ((state.caller environment).boundNames loop) interpreted final)
    (isReturned : State.IsReturned environment final.heap final.store.get?
      lowered.program.captures.toList started returned) :
    started.Varies returned := by
  have element := comparable.isElementLoop notPending
  have heap : returned.heap = started.heap := by
    refine isReturned.noLists fun name member copy stored => ?_
    have isList := element.mem_listNames_of_captured_list lowers inStep
      (Std.TreeSet.mem_toList.1 member) stored
    rw [comparable.listNames_eq_nil] at isList
    cases isList
  have varies := isReturned.varies
  rw [heap] at varies
  exact varies

theorem certain_eq_nil : lowered.certain = [] := by
  have element := comparable.isElementLoop notPending
  refine (Caller.isFlatProgram_of_lower? lowers element.flat).certain fun name member => ?_
  rcases member with isScalar | isList
  · obtain ⟨value, bound, _⟩ :=
      (comparable.plainVariables name (comparable.mem_scalarNames_iff.1 isScalar)).plainValue
    have bound : (state.caller environment).scope.get? name = some value := bound
    rw [bound]
    rfl
  · rw [comparable.listNames_eq_nil] at isList
    cases isList

end

end IsComparable

theorem Eval.compileLoop_of_run {environment : Environment} {state : State} {loop : Statement}
    {lowered : Lowered} {result : LoopResult} {final : Machine.State}
    (isStatic : hasDynamicCode (loop.render state.heap) = false)
    (lowers : (state.caller environment).lower? loop = some lowered)
    (noneRemembered : state.caches.loops.isEmpty = true)
    (ran : Machine.run lowered.program environment.policy state.heap state.run.limiter =
      (.ok result, final)) :
    ∃ missed caches, Eval.compileLoop loop environment state =
      .ok true { ({ state with caches := missed }.afterMachine final).mergeResult environment result
        lowered.certain with caches } := by
  have unknown (key : String) : (state.caches.loop? key).1 = none := by
    have absent : state.caches.loops.get? key = none := by
      rw [Std.TreeMap.get?_eq_getElem?]
      exact Std.TreeMap.getElem?_of_isEmpty noneRemembered
    simp only [Caches.loop?, absent]
  simp only [compileLoop, offerLoop, Running.run_bind, Running.run_get, Running.run_read]
  have heapOf : (state.caller environment).heap = state.heap := rfl
  simp only [heapOf, isStatic, lowers, Bool.false_eq_true, if_false, Running.run_bind, knownLoop?,
    Running.run_modifyGet, unknown]
  simp only [runProgram, Running.run_bind, Running.run_read, Running.run_get, Running.run_modify,
    ran, mergeResult, rememberLoop, Running.run_pure]
  exact ⟨_, _, rfl⟩

theorem Engine.runStatement_of_compileLoop {engine : Engine} {environment : Environment}
    {state compiled : State} {loop : Statement}
    (compiling : environment.policy.compileLoops = true) (isLoop : loop.isLoop = true)
    (compiles : Eval.compileLoop loop environment state = .ok true compiled) :
    engine.runStatement loop environment state = .ok .continue compiled := by
  cases loop <;> first
    | cases isLoop; done
    | simp only [runStatement, Running.run_bind, Running.run_read, compiling, compiles, if_true]; rfl

/-- Compiled and interpreted loops agree. If no error is pending, and the interpreter runs a plain
loop without a fault, abandons no loop in it and runs no more bodies than the machine may run
iterations, then the compiler deals with the loop and leaves a state that agrees with the interpreted
one. -/
theorem Eval.compileLoop_agrees {environment : Environment} {state : State} {loop : Statement}
    {count : Nat} (comparable : IsComparable environment state loop)
    (notPending : state.frame.errorState ≠ .pending)
    (counts : loop.bodies? environment.interpreting Engine.maxNesting state = some count)
    (few : count ≤ environment.policy.maxCompiledIterations) :
    ∃ interpreted compiled,
      Eval.statement loop environment.interpreting state = .ok .continue interpreted ∧
        Eval.compileLoop loop environment state = .ok true compiled ∧
        (environment.policy.compileLoops = true →
          Eval.statement loop environment state = .ok .continue compiled) ∧
        State.AgreesIn environment interpreted compiled := by
  obtain ⟨lowered, lowers⟩ := Option.isSome_iff_exists.1 comparable.isLowered
  have element := comparable.isElementLoop notPending
  obtain ⟨interpreted, final, ran, completes, inStep⟩ :=
    (element.runs lowers counts).resolve_left fun stops => by
      rcases stops.1 with many | timed
      · omega
      · rw [comparable.untimed] at timed
        cases timed
  obtain ⟨missed, caches, compiles⟩ := compileLoop_of_run comparable.isStatic lowers
    comparable.noneRemembered completes
  have untouched : state.IsUntouched ({ state with caches := missed }.afterMachine final) := by
    have machine := state.isUntouched_afterMachine lowered.program environment.policy
    rw [completes] at machine
    exact machine.trans (.withCaches _ missed)
  obtain ⟨returned, isReturned, merged⟩ :=
    element.isReturned_of_mergeResult lowers inStep untouched rfl
  -- All names have values, so no type is certain and none is written back.
  have noTypes : returned.mergeTypes lowered.certain = returned := by
    rw [comparable.certain_eq_nil notPending lowers]
    rfl
  rw [merged, noTypes] at compiles
  have varies := comparable.varies_of_inStep inStep
  have variesCompiled := (untouched.varies.trans
    (comparable.varies_of_isReturned notPending lowers inStep isReturned)).withCaches caches
  -- Outside of `With` blocks, what a name means depends on the variables alone.
  have outside (after : State) (caches : Caches) (varies : { state with caches }.Varies after) :
      (after.scope environment).receiver = none := by
    rw [varies]
    simp [State.scope, Frame.receiverName?, comparable.noReceivers]
  refine ⟨interpreted, _, ran, compiles,
    fun compiling => Engine.runStatement_of_compileLoop compiling comparable.isLoop compiles, ?_, ?_⟩
  · exact Scope.get?_congr (outside _ _ varies) (outside _ caches variesCompiled) fun name =>
      (comparable.value?_eq notPending lowers inStep untouched isReturned name).symm
  · exact (varies.symm.withCaches caches).trans variesCompiled

/-! ## An agreement and a disagreement -/

/-- A loop that adds up the numbers from 1 until it comes to one that is too large. -/
private def addingLoop : Statement :=
  .forRange "i" (.literal (.integer 1)) (.literal (.integer 5)) none
    [.branch [.mk (.binary .greater (.var "i") (.var "n")) [.exit .for]] [],
      .assign (.var "sum") (.binary .add (.var "sum") (.var "i"))]

private def addingState (errorState : ErrorState) : State :=
  let state := State.start {} none {} {}
  { state with
    frame.errorState := errorState
    run.globals := NameMap.ofList
      [("i", .value (.integer 0)), ("n", .value (.integer 3)), ("sum", .value (.integer 0))] }

private def holdsInteger (number : Int64) : Option Value → Bool
  | some (.integer held) => held == number
  | _ => false

private theorem eq_of_holdsInteger {number : Int64} {held : Option Value}
    (holds : holdsInteger number held = true) : held = some (.integer number) := by
  unfold holdsInteger at holds
  split at holds
  · rw [eq_of_beq holds]
  · cases holds

private theorem State.HoldsPlain.of_integer {state : State} {environment : Environment}
    {name : String} (number : Int64) (plain : IsPlainName name)
    (noProcedure : ((state.scope environment).procedure? name).isNone = true)
    (noType : (state.frame.types.get? name).isNone = true)
    (holds : holdsInteger number ((state.scope environment).get? name) = true) :
    state.HoldsPlain environment name where
  plainName := plain
  noProcedure := Option.isNone_iff_eq_none.1 noProcedure
  plainValue := by
    refine ⟨_, eq_of_holdsInteger holds, rfl, ?_⟩
    rw [Option.isNone_iff_eq_none.1 noType]
    rfl

set_option maxRecDepth 100000 in
private theorem isComparable_addingLoop (errorState : ErrorState) :
    IsComparable {} (addingState errorState) addingLoop where
  isLoop := rfl
  plain := by decide
  plainVariables name member := by
    have known : ["i", "n", "sum"].contains name = true := by
      have subset : addingLoop.variableNames.all (["i", "n", "sum"].contains ·) = true := by
        decide +kernel
      exact List.all_eq_true.1 subset name member
    simp only [List.contains_eq_mem, List.mem_cons, List.not_mem_nil, or_false,
      decide_eq_true_eq] at known
    rcases known with rfl | rfl | rfl <;> cases errorState
    all_goals
      first
      | exact .of_integer 0 (by decide) (by decide +kernel) rfl (by decide +kernel)
      | exact .of_integer 3 (by decide) (by decide +kernel) rfl (by decide +kernel)
  noReceivers := rfl
  noText := rfl
  untimed := rfl
  noneRemembered := rfl
  isStatic := by cases errorState <;> decide +kernel
  isLowered := by cases errorState <;> decide +kernel

private def leavesSum (number : Int64) (after : State) : Bool :=
  holdsInteger number ((after.scope {}).get? "sum")

private theorem exists_of_leavesSum {α : Type} [DecidableEq α] {action : Eval α} {answer : α}
    {number : Int64} {environment : Environment} {state : State}
    (ends : action.endsWith answer (leavesSum number) environment state = true) :
    ∃ after, action environment state = .ok answer after ∧
      (after.scope {}).get? "sum" = some (.integer number) := by
  obtain ⟨answers, leaves⟩ := Eval.outcome_and_after_of_endsWith _ ends
  exact ⟨_, Eval.eq_ok_of_outcome answers, eq_of_holdsInteger leaves⟩

set_option maxRecDepth 100000 in
/-- Without a pending error, the loop leaves 1 + 2 + 3 either way. -/
theorem Eval.compileLoop_agrees_adding :
    ∃ interpreted compiled,
      Eval.statement addingLoop (Environment.interpreting {}) (addingState .clear) =
          .ok .continue interpreted ∧
        Eval.compileLoop addingLoop {} (addingState .clear) = .ok true compiled ∧
        State.AgreesIn {} interpreted compiled ∧
        (compiled.scope {}).get? "sum" = some (.integer 6) := by
  obtain ⟨interpreted, compiled, ran, compiles, _, agrees⟩ :=
    Eval.compileLoop_agrees (isComparable_addingLoop .clear) (by decide)
      (by decide +kernel : addingLoop.bodies? (Environment.interpreting {}) Engine.maxNesting
        (addingState .clear) = some 4) (by decide)
  obtain ⟨after, compilesToo, sum⟩ : ∃ after,
      Eval.compileLoop addingLoop {} (addingState .clear) = .ok true after ∧
        (after.scope {}).get? "sum" = some (.integer 6) :=
    exists_of_leavesSum (by decide +kernel)
  obtain ⟨⟩ : EStateM.Result.ok true compiled = .ok true after := compiles.symm.trans compilesToo
  exact ⟨interpreted, compiled, ran, compiles, agrees, sum⟩

set_option maxRecDepth 100000 in
/-- While an error is pending, the interpreter leaves the loop after its first statement. The machine
knows nothing of the error and adds up all the numbers. -/
theorem Eval.compileLoop_disagrees_while_pending :
    IsComparable {} (addingState .pending) addingLoop ∧
      addingLoop.bodies? (Environment.interpreting {}) Engine.maxNesting (addingState .pending) =
        some 1 ∧
      ∃ interpreted compiled,
        Eval.statement addingLoop (Environment.interpreting {}) (addingState .pending) =
            .ok .continue interpreted ∧
          Eval.compileLoop addingLoop {} (addingState .pending) = .ok true compiled ∧
          (interpreted.scope {}).get? "sum" = some (.integer 0) ∧
          (compiled.scope {}).get? "sum" = some (.integer 6) := by
  refine ⟨isComparable_addingLoop .pending, by decide +kernel, ?_⟩
  obtain ⟨interpreted, ran, stays⟩ : ∃ after,
      Eval.statement addingLoop (Environment.interpreting {}) (addingState .pending) =
          .ok .continue after ∧ (after.scope {}).get? "sum" = some (.integer 0) :=
    exists_of_leavesSum (by decide +kernel)
  obtain ⟨compiled, compiles, adds⟩ : ∃ after,
      Eval.compileLoop addingLoop {} (addingState .pending) = .ok true after ∧
        (after.scope {}).get? "sum" = some (.integer 6) :=
    exists_of_leavesSum (by decide +kernel)
  exact ⟨interpreted, compiled, ran, compiles, stays, adds⟩

end MacroSandbox
