import MacroSandbox.Loop.Compiler

/-! What assignments leave alone: they do not change the heap, and they neither read nor change the
caches, what was sent to the listener, the limiter and the errors of the run and of the frame. -/

namespace MacroSandbox

/-- The parts of a state that assignments neither read nor change. -/
structure Aside where
  caches : Caches
  sink : Option (Array Action)
  limiter : Limiter
  lastError : ErrorInfo
  errorCount : Nat
  errorState : ErrorState
  errorMode : ErrorMode

namespace State

def aside (state : State) : Aside :=
  { caches := state.caches
    sink := state.run.sink
    limiter := state.run.limiter
    lastError := state.run.lastError
    errorCount := state.run.errorCount
    errorState := state.frame.errorState
    errorMode := state.frame.errorMode }

def withAside (state : State) (aside : Aside) : State :=
  { state with
    caches := aside.caches
    run.sink := aside.sink
    run.limiter := aside.limiter
    run.lastError := aside.lastError
    run.errorCount := aside.errorCount
    frame.errorState := aside.errorState
    frame.errorMode := aside.errorMode }

variable {environment : Environment} {state : State} {aside : Aside}

/-! ## The heap -/

@[simp] theorem heap_bind (placement : Placement) (name : String) (binding : Binding) :
    (state.bind placement name binding).heap = state.heap := by
  unfold bind
  split <;> rfl

@[simp] theorem heap_scanValue (value : Value) : (state.scanValue value).heap = state.heap := by
  cases value <;> rfl

@[simp] theorem heap_convertNode (placement : Placement) (name : String) (value : Value) :
    (state.convertNode environment placement name value).heap = state.heap := by
  unfold convertNode
  dsimp only
  split
  · split
    · rfl
    · split
      · exact heap_bind _ _ _
      · rfl
  · split
    · exact heap_bind _ _ _
    · rfl

@[simp] theorem heap_assign (placement : Placement) (type : Option DeclaredType) (name : String)
    (value : Value) : (state.assign environment placement type name value).heap = state.heap := by
  unfold assign
  cases type <;> simp

/-! ## What stands aside -/

theorem aside_of_withAside {change : State → State}
    (alike : ∀ aside, change (state.withAside aside) = (change state).withAside aside) :
    (change state).aside = state.aside := by
  have same : change state = (change state).withAside state.aside := alike state.aside
  rw [same]
  rfl

def beside (state : State) (caches : Caches) (sink : Option (Array Action)) (ticks : UInt64) :
    State :=
  { state with caches, run.sink := sink, run.limiter.ticks := ticks }

theorem beside_of_withAside {change : State → State}
    (alike : ∀ aside, change (state.withAside aside) = (change state).withAside aside)
    (caches : Caches) (sink : Option (Array Action)) (ticks : UInt64) :
    change (state.beside caches sink ticks) = (change state).beside caches sink ticks := by
  have left : (change state).aside = state.aside := aside_of_withAside alike
  calc change (state.beside caches sink ticks)
    _ = (change state).withAside { state.aside with caches, sink, limiter.ticks := ticks } :=
      alike { state.aside with caches, sink, limiter.ticks := ticks }
    _ = (change state).beside caches sink ticks := by
      rw [← left]
      rfl

theorem bind_withAside (placement : Placement) (name : String) (binding : Binding) :
    (state.withAside aside).bind placement name binding =
      (state.bind placement name binding).withAside aside := by
  have same : (state.withAside aside).bindsGlobally placement name =
      state.bindsGlobally placement name := rfl
  unfold State.bind
  rw [same]
  split <;> rfl

theorem convertNode_withAside (placement : Placement) (name : String) (value : Value) :
    (state.withAside aside).convertNode environment placement name value =
      (state.convertNode environment placement name value).withAside aside := by
  have sameScope : (state.withAside aside).scope environment = state.scope environment := rfl
  have sameHeap : (state.withAside aside).heap = state.heap := rfl
  unfold convertNode
  simp only [sameScope, sameHeap, bind_withAside]
  split
  · split
    · rfl
    · split <;> rfl
  · split <;> rfl

theorem scanValue_withAside (value : Value) :
    (state.withAside aside).scanValue value = (state.scanValue value).withAside aside := by
  cases value <;> rfl

theorem assign_withAside (placement : Placement) (type : Option DeclaredType) (name : String)
    (value : Value) :
    (state.withAside aside).assign environment placement type name value =
      (state.assign environment placement type name value).withAside aside := by
  have untyped (state : State) :
      (state.withAside aside).assign environment placement none name value =
        (state.assign environment placement none name value).withAside aside := by
    simp only [assign, scanValue_withAside, convertNode_withAside, bind_withAside]
    rfl
  cases type with
  | none => exact untyped state
  | some type => exact untyped (state.setType (state.storedName name) type)

theorem mergeValue_withAside (name : String) (value : Value) :
    (state.withAside aside).mergeValue environment name value =
      (state.mergeValue environment name value).withAside aside := by
  have sameScope : (state.withAside aside).scope environment = state.scope environment := rfl
  unfold mergeValue
  rw [sameScope]
  split
  · rfl
  · rfl
  · exact assign_withAside _ _ _ _

theorem mergeUpdates_withAside (updates : List (String × Datum)) :
    (state.withAside aside).mergeUpdates environment updates =
      (state.mergeUpdates environment updates).withAside aside := by
  induction updates generalizing state with
  | nil => rfl
  | cons update rest induction =>
      rcases update with ⟨name, final⟩
      let built : State := { state with heap := (final.build state.heap).2 }
      have first : (built.withAside aside).mergeValue environment name (final.build state.heap).1 =
          (built.mergeValue environment name (final.build state.heap).1).withAside aside :=
        mergeValue_withAside _ _
      calc (state.withAside aside).mergeUpdates environment ((name, final) :: rest)
        _ = ((built.withAside aside).mergeValue environment name
              (final.build state.heap).1).mergeUpdates environment rest := rfl
        _ = _ := by
          rw [first, induction]
          rfl

theorem mergeTypes_withAside (types : List (String × DeclaredType)) :
    (state.withAside aside).mergeTypes types = (state.mergeTypes types).withAside aside := by
  induction types generalizing state with
  | nil => rfl
  | cons entry rest induction =>
      rcases entry with ⟨name, type⟩
      have same : (state.withAside aside).frame.types = state.frame.types := rfl
      rw [mergeTypes, mergeTypes, same]
      split
      · exact @induction (state.setType name type)
      · exact @induction state

theorem mergeResult_withAside (result : LoopResult) (certain : List (String × DeclaredType)) :
    (state.withAside aside).mergeResult environment result certain =
      (state.mergeResult environment result certain).withAside aside := by
  let merged := state.mergeUpdates environment result.updates
  have written : (state.withAside aside).mergeUpdates environment result.updates =
      merged.withAside aside :=
    mergeUpdates_withAside result.updates
  have typed := @mergeTypes_withAside
    { merged with run.memory := merged.run.memory.merge result.memory } aside certain
  rw [mergeResult, written]
  exact typed

theorem aside_assign (placement : Placement) (type : Option DeclaredType) (name : String)
    (value : Value) :
    (state.assign environment placement type name value).aside = state.aside :=
  @aside_of_withAside state (·.assign environment placement type name value) fun _ =>
    assign_withAside placement type name value

theorem errorState_assign (placement : Placement) (type : Option DeclaredType) (name : String)
    (value : Value) :
    (state.assign environment placement type name value).frame.errorState =
      state.frame.errorState :=
  congrArg Aside.errorState (aside_assign placement type name value)

theorem assign_beside (placement : Placement) (type : Option DeclaredType) (name : String)
    (value : Value) (caches : Caches) (sink : Option (Array Action)) (ticks : UInt64) :
    (state.beside caches sink ticks).assign environment placement type name value =
      (state.assign environment placement type name value).beside caches sink ticks :=
  @beside_of_withAside state (·.assign environment placement type name value)
    (fun _ => assign_withAside placement type name value) caches sink ticks

theorem aside_mergeResult (result : LoopResult) (certain : List (String × DeclaredType)) :
    (state.mergeResult environment result certain).aside = state.aside :=
  @aside_of_withAside state (·.mergeResult environment result certain) fun _ =>
    mergeResult_withAside result certain

theorem mergeResult_beside (result : LoopResult) (certain : List (String × DeclaredType))
    (caches : Caches) (sink : Option (Array Action)) (ticks : UInt64) :
    (state.beside caches sink ticks).mergeResult environment result certain =
      (state.mergeResult environment result certain).beside caches sink ticks :=
  @beside_of_withAside state (·.mergeResult environment result certain)
    (fun _ => mergeResult_withAside result certain) caches sink ticks

end State

end MacroSandbox
