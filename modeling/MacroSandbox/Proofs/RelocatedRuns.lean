import MacroSandbox.Proofs.ShapedPrograms

/-! Runs of the same code in different heaps.

Two runs go through states that match: their variables hold matching values, and they have counted and
written the same. Each part of the code takes both of them to states that match again, and they end
alike. -/

namespace MacroSandbox

namespace Machine

/-! ## States that match -/

/-- Two runs of the same code: the heaps with which they start, the shapes of their variables, what they
run, and what they may use. -/
structure Pair where
  bases : Bases
  shapes : String → Shape
  setup : Setup
  other : Setup
  limiter : Limiter
  otherLimiter : Limiter

/-- The runs have the same functions and the same limits, and may nest as many more calls. Neither of them
meets a deadline. -/
structure Pair.IsSound (pair : Pair) : Prop where
  functions : ∀ name,
    pair.setup.program.functions.get? name = pair.other.program.functions.get? name
  shared : ∀ name,
    pair.setup.program.shared.contains name = pair.other.program.shared.contains name
  maxIterations : pair.setup.maxIterations = pair.other.maxIterations
  maxFaults : pair.setup.maxFaults = pair.other.maxFaults
  areShaped : ∀ name function, pair.setup.program.functions.get? name = some function →
    LoopStatement.AreShaped pair.shapes pair.setup.program.functions function.body
  untimed : pair.limiter.deadline = none
  otherUntimed : pair.otherLimiter.deadline = none
  sameRoom : pair.limiter.maxDepth + pair.otherLimiter.depth =
    pair.otherLimiter.maxDepth + pair.limiter.depth

structure TicksFrom (start limiter : Limiter) : Prop where
  maxDepth : limiter.maxDepth = start.maxDepth
  depth : limiter.depth = start.depth
  deadline : limiter.deadline = start.deadline

namespace Pair

def TablesMatch (pair : Pair) (layout : Layout) : (table other : Std.TreeMap String Value) → Prop :=
  TablesAlike fun name => pair.bases.Matches layout (pair.shapes name)

structure LocalsMatch (pair : Pair) (layout : Layout) (locals other : Locals) : Prop where
  values : pair.TablesMatch layout locals.values other.values
  types : ∀ name, locals.types.get? name = other.types.get? name

structure StatesMatch (pair : Pair) (layout : Layout) (state other : State) : Prop where
  heaps : pair.bases.HeapsMatch layout state.heap other.heap
  store : pair.TablesMatch layout state.store other.store
  types : ∀ name, state.types.get? name = other.types.get? name
  locals : Option.Rel (pair.LocalsMatch layout) state.locals other.locals
  memory : state.memory = other.memory
  iterations : state.iterations = other.iterations
  faults : state.faults = other.faults
  ticks : TicksFrom pair.limiter state.limiter
  otherTicks : TicksFrom pair.otherLimiter other.limiter

variable {pair : Pair} {layout later : Layout} {state other : State}

theorem TablesMatch.mono {table otherTable : Std.TreeMap String Value}
    (same : pair.TablesMatch layout table otherTable) (grows : layout.Grows later) :
    pair.TablesMatch later table otherTable :=
  same.imp fun same => same.mono grows

theorem LocalsMatch.mono {locals otherLocals : Locals}
    (same : pair.LocalsMatch layout locals otherLocals) (grows : layout.Grows later) :
    pair.LocalsMatch later locals otherLocals where
  values := same.values.mono grows
  types := same.types

theorem StatesMatch.withHeaps (states : pair.StatesMatch layout state other)
    (grows : layout.Grows later) {heap otherHeap : Heap}
    (heaps : pair.bases.HeapsMatch later heap otherHeap) :
    pair.StatesMatch later { state with heap } { other with heap := otherHeap } :=
  { states with
    heaps
    store := states.store.mono grows
    locals := rel_imp (fun same => same.mono grows) states.locals }

/-! ## Parts of runs -/

end Pair

/-- Two parts end early for the same reason. Where calls nest too deep, the depths may differ. -/
inductive Stop.IsLike : Stop → Stop → Prop
  | same (stop : Stop) : IsLike stop stop
  | tooDeep (depth other : Nat) :
      IsLike (.halt (.fatal (.recursionLimit depth))) (.halt (.fatal (.recursionLimit other)))

namespace Pair

inductive Ends {α β : Type} (pair : Pair) (layout : Layout) (related : Layout → α → β → Prop) :
    EStateM.Result Stop State α → EStateM.Result Stop State β → Prop
  | ok {later : Layout} {value : α} {copy : β} {state other : State} (grows : layout.Grows later)
      (states : pair.StatesMatch later state other) (same : related later value copy) :
      pair.Ends layout related (.ok value state) (.ok copy other)
  | error {later : Layout} {stop otherStop : Stop} {state other : State}
      (grows : layout.Grows later) (states : pair.StatesMatch later state other)
      (isLike : stop.IsLike otherStop) :
      pair.Ends layout related (.error stop state) (.error otherStop other)

def InStep {α β : Type} (pair : Pair) (layout : Layout) (related : Layout → α → β → Prop)
    (part : Machine α) (other : Machine β) : Prop :=
  ∀ state otherState, pair.StatesMatch layout state otherState →
    pair.Ends layout related (part pair.setup state) (other pair.other otherState)

namespace InStep

variable {α β γ δ : Type} {pair : Pair} {layout : Layout} {related : Layout → α → β → Prop}
  {next : Layout → γ → δ → Prop}

theorem pure {value : α} {copy : β} (same : related layout value copy) :
    pair.InStep layout related (Pure.pure value) (Pure.pure copy) :=
  fun _ _ states => .ok (.refl layout) states same

theorem throw (stop : Stop) :
    pair.InStep layout related (MonadExcept.throw stop) (MonadExcept.throw stop) :=
  fun _ _ states => .error (.refl layout) states (.same stop)

theorem bind {part : Machine α} {other : Machine β} {rest : α → Machine γ}
    {otherRest : β → Machine δ} (first : pair.InStep layout related part other)
    (second : ∀ {later value copy}, layout.Grows later → related later value copy →
      pair.InStep later next (rest value) (otherRest copy)) :
    pair.InStep layout next (part >>= rest) (other >>= otherRest) := by
  intro state otherState states
  have ended := first _ _ states
  rw [Running.run_bind, Running.run_bind]
  generalize part pair.setup state = result at ended
  generalize other pair.other otherState = otherResult at ended
  cases ended with
  | error grows statesMiddle isLike => exact .error grows statesMiddle isLike
  | ok grows statesMiddle same =>
      dsimp only
      have last := second grows same _ _ statesMiddle
      generalize rest _ pair.setup _ = result at last ⊢
      generalize otherRest _ pair.other _ = otherResult at last ⊢
      cases last with
      | ok growsMore statesLast same => exact .ok (grows.trans growsMore) statesLast same
      | error growsMore statesLast isLike => exact .error (grows.trans growsMore) statesLast isLike

theorem map {part : Machine α} {other : Machine β} {image : α → γ} {otherImage : β → δ}
    (first : pair.InStep layout related part other)
    (same : ∀ {later value copy}, layout.Grows later → related later value copy →
      next later (image value) (otherImage copy)) :
    pair.InStep layout next (image <$> part) (otherImage <$> other) :=
  first.bind fun grows related => .pure (same grows related)

theorem observe {rest : State → Machine γ} {otherRest : State → Machine δ}
    (inStep : ∀ {state other}, pair.StatesMatch layout state other →
      pair.InStep layout next (rest state) (otherRest other)) :
    pair.InStep layout next (get >>= rest) (get >>= otherRest) :=
  fun _ _ states => inStep states _ _ states

theorem consult {rest : Setup → Machine γ} {otherRest : Setup → Machine δ}
    (inStep : pair.InStep layout next (rest pair.setup) (otherRest pair.other)) :
    pair.InStep layout next (read >>= rest) (read >>= otherRest) :=
  inStep

theorem changing {change otherChange : State → State}
    (changes : ∀ {state other}, pair.StatesMatch layout state other →
      ∃ later, layout.Grows later ∧ pair.StatesMatch later (change state) (otherChange other)) :
    pair.InStep layout (fun _ _ _ => True) (modify change : Machine Unit)
      (modify otherChange : Machine Unit) := by
  intro state other states
  rcases changes states with ⟨later, grows, changed⟩
  exact .ok grows changed trivial

theorem lift {outcome : Except Fault α} {other : Except Fault β}
    (alike : OutcomesAlike (related layout) outcome other) :
    pair.InStep layout related (Machine.lift outcome) (Machine.lift other) := by
  cases alike with
  | ok same => exact .pure same
  | error fault => exact .throw _

theorem lift_same (outcome : Except Fault α) :
    pair.InStep layout (fun _ => Eq) (Machine.lift outcome) (Machine.lift outcome) :=
  .lift (.of_eq rfl)

theorem onHeap {compute : Heap → Except Fault α × Heap} {other : Heap → Except Fault β × Heap}
    (leads : ∀ {heap otherHeap}, pair.bases.HeapsMatch layout heap otherHeap →
      pair.bases.Leads layout (fun later => OutcomesAlike (related later)) (compute heap)
        (other otherHeap)) :
    pair.InStep layout related (Machine.onHeap compute) (Machine.onHeap other) := by
  intro state otherState states
  rcases leads states.heaps with ⟨later, grows, heaps, alike⟩
  have after := states.withHeaps grows heaps
  simp only [Machine.onHeap]
  generalize compute state.heap = computed at heaps alike after
  generalize other otherState.heap = otherComputed at heaps alike after
  rcases computed with ⟨outcome, heap⟩
  rcases otherComputed with ⟨otherOutcome, otherHeap⟩
  cases alike with
  | ok same => exact .ok grows after same
  | error fault => exact .error grows after (.same _)

end InStep

section

variable {pair : Pair} {layout : Layout}

/-! ### Counting -/

theorem StatesMatch.withTicks {state other : State} (states : pair.StatesMatch layout state other)
    (ticks otherTicks : UInt64) :
    pair.StatesMatch layout { state with limiter.ticks := ticks }
      { other with limiter.ticks := otherTicks } :=
  { states with
    ticks := { states.ticks with }
    otherTicks := { states.otherTicks with } }

theorem inStep_tick (sound : pair.IsSound) :
    pair.InStep layout (fun _ _ _ => True) Machine.tick Machine.tick := by
  intro state other states
  have ticks := states.ticks
  have otherTicks := states.otherTicks
  have ticked := states.withTicks (state.limiter.ticks + 1) (other.limiter.ticks + 1)
  have sameRoom := sound.sameRoom
  have untimed := ticks.deadline.trans sound.untimed
  have otherUntimed := otherTicks.deadline.trans sound.otherUntimed
  by_cases within : state.limiter.depth ≤ state.limiter.maxDepth
  · have otherWithin : other.limiter.depth ≤ other.limiter.maxDepth := by
      rw [ticks.depth, ticks.maxDepth] at within
      rw [otherTicks.depth, otherTicks.maxDepth]
      omega
    simp only [Machine.tick, Limiter.tick_eq ⟨within, untimed⟩,
      Limiter.tick_eq ⟨otherWithin, otherUntimed⟩]
    exact .ok (.refl layout) ticked trivial
  · have otherWithin : ¬ other.limiter.depth ≤ other.limiter.maxDepth := by
      rw [ticks.depth, ticks.maxDepth] at within
      rw [otherTicks.depth, otherTicks.maxDepth]
      omega
    rw [Nat.not_le] at within otherWithin
    simp only [Machine.tick, Limiter.tick, if_pos within, if_pos otherWithin]
    exact .error (.refl layout) ticked (.tooDeep _ _)

theorem inStep_countIteration (sound : pair.IsSound) :
    pair.InStep layout (fun _ _ _ => True) countIteration countIteration := by
  refine .bind (.changing fun {state other} states => ⟨layout, .refl layout, ?_⟩) fun _ _ => ?_
  · exact { states with iterations := congrArg (· + 1) states.iterations }
  · refine .consult (.observe fun states => ?_)
    rw [sound.maxIterations, states.iterations]
    split
    · have stops (layout : Layout) : pair.InStep layout (fun _ _ _ => True)
          (throw (.halt .runaway) : Machine Unit) (throw (.halt .runaway) : Machine Unit) := .throw _
      exact (stops _).bind fun _ _ => inStep_tick sound
    · exact inStep_tick sound

theorem inStep_countFault (sound : pair.IsSound) :
    pair.InStep layout (fun _ _ _ => True) countFault countFault := by
  refine .bind (.changing fun {state other} states => ⟨layout, .refl layout, ?_⟩) fun _ _ => ?_
  · exact { states with faults := congrArg (· + 1) states.faults }
  · refine .consult (.observe fun states => ?_)
    rw [sound.maxFaults, states.faults]
    split
    · exact .throw _
    · exact .pure trivial

theorem inStep_guarded (sound : pair.IsSound) (guard : Guard) {statement other : Machine Flow}
    (inStep : pair.InStep layout (fun _ => Eq) statement other) :
    pair.InStep layout (fun _ => Eq) (guarded guard statement) (guarded guard other) := by
  intro state otherState states
  have ended := inStep _ _ states
  unfold guarded
  generalize statement pair.setup state = result at ended
  generalize other pair.other otherState = otherResult at ended
  cases ended with
  | ok grows states same => exact .ok grows states same
  | error grows states isLike =>
      rcases isLike with (fault | halt) | ⟨depth, otherDepth⟩
      · have counted := inStep_countFault sound _ _ states
        dsimp only
        generalize countFault pair.setup _ = result at counted
        generalize countFault pair.other _ = otherResult at counted
        cases counted with
        | error growsMore states isLike => exact .error (grows.trans growsMore) states isLike
        | ok growsMore states same =>
            cases guard with
            | skip => exact .ok (grows.trans growsMore) states rfl
            | breakLoop => exact .ok (grows.trans growsMore) states rfl
      · exact .error grows states (.same _)
      · exact .error grows states (.tooDeep depth otherDepth)

/-! ### Variables -/

theorem matches_getD {shape : Shape} {value copy : Option Value}
    (same : Option.Rel (pair.bases.Matches layout shape) value copy) :
    pair.bases.Matches layout shape (value.getD .null) (copy.getD .null) := by
  cases same with
  | none => exact .scalar rfl
  | some same => exact same

theorem agree_getD {ordinary : Value} (scalar : ordinary.isReference = false)
    {value copy : Option Value} (same : Option.Rel (pair.bases.Agree layout) value copy) :
    pair.bases.Agree layout (value.getD ordinary) (copy.getD ordinary) := by
  cases same with
  | none => exact ⟨.scalar, .scalar scalar⟩
  | some same => exact same

theorem inStep_load (sound : pair.IsSound) (name : String) :
    pair.InStep layout (pair.bases.Matches · (pair.shapes name)) (load name) (load name) := by
  intro state other states
  have ofProgram := matches_getD (states.store name)
  have locals := states.locals
  refine .ok (.refl layout) states ?_
  rw [sound.shared]
  generalize state.locals = here at locals
  generalize other.locals = otherHere at locals
  cases locals with
  | none => exact ofProgram
  | some same =>
      have found := same.values name
      dsimp only
      generalize Std.TreeMap.get? _ name = value at found
      generalize Std.TreeMap.get? _ name = copy at found
      cases found with
      | some same => exact same
      | none =>
          dsimp only
          split
          · exact ofProgram
          · exact .scalar rfl

theorem StatesMatch.storeInProgram {state other : State}
    (states : pair.StatesMatch layout state other) {name : String} {value copy : Value}
    (same : pair.bases.Matches layout (pair.shapes name) value copy) :
    pair.StatesMatch layout (Machine.storeInProgram state name value)
      (Machine.storeInProgram other name copy) := by
  have coerced := Bases.HeapsMatch.coerceTo same (state.types.get? name) state.heap other.heap
  have types := states.types name
  unfold Machine.storeInProgram
  rw [← types]
  exact { states with store := states.store.insert coerced }

theorem StatesMatch.storeInLocals {state other : State}
    (states : pair.StatesMatch layout state other) {locals otherLocals : Locals}
    (here : pair.LocalsMatch layout locals otherLocals) {name : String} {value copy : Value}
    (same : pair.bases.Matches layout (pair.shapes name) value copy) :
    pair.StatesMatch layout (Machine.storeInLocals state locals name value)
      (Machine.storeInLocals other otherLocals name copy) := by
  have coerced := Bases.HeapsMatch.coerceTo same (locals.types.get? name) state.heap other.heap
  have types := here.types name
  unfold Machine.storeInLocals
  rw [← types]
  exact { states with
    locals := .some { here with values := here.values.insert coerced } }

theorem inStep_store (sound : pair.IsSound) {name : String} {value copy : Value}
    (same : pair.bases.Matches layout (pair.shapes name) value copy) :
    pair.InStep layout (fun _ _ _ => True) (store name value) (store name copy) := by
  intro state other states
  have inProgram := states.storeInProgram same
  have inLocals {locals otherLocals : Locals} (here : pair.LocalsMatch layout locals otherLocals) :=
    states.storeInLocals here same
  have locals := states.locals
  unfold store
  rw [sound.shared, states.store.contains_eq]
  generalize state.locals = here at locals
  generalize other.locals = otherHere at locals
  cases locals with
  | none => exact .ok (.refl layout) inProgram trivial
  | some here =>
      dsimp only
      rw [here.values.contains_eq]
      split
      · exact .ok (.refl layout) inProgram trivial
      · exact .ok (.refl layout) (inLocals here) trivial

theorem get?_insertOptional {α : Type} {table other : Std.TreeMap String α}
    (same : ∀ name, table.get? name = other.get? name) (key : String) (entry : Option α)
    (name : String) :
    (insertOptional table key entry).get? name = (insertOptional other key entry).get? name := by
  cases entry with
  | none => exact same name
  | some entry =>
      have same := same name
      simp only [Std.TreeMap.get?_eq_getElem?] at same
      simp only [insertOptional, Std.TreeMap.get?_eq_getElem?, Std.TreeMap.getElem?_insert, same]

theorem inStep_bindHere {name : String} {value copy : Value}
    (same : pair.bases.Matches layout (pair.shapes name) value copy)
    (type : Option DeclaredType) :
    pair.InStep layout (fun _ _ _ => True) (bindHere name value type)
      (bindHere name copy type) := by
  apply InStep.changing
  intro state other states
  refine ⟨layout, .refl layout, ?_⟩
  have locals := states.locals
  generalize state.locals = here at locals
  generalize other.locals = otherHere at locals
  cases locals with
  | none =>
      exact { states with
        store := states.store.insert same
        types := get?_insertOptional states.types name type
        locals := .none }
  | some here =>
      exact { states with
        locals := .some
          { values := here.values.insert same
            types := get?_insertOptional here.types name type } }

theorem StatesMatch.isBoundHere_eq {state other : State}
    (states : pair.StatesMatch layout state other) (name : String) :
    isBoundHere state name = isBoundHere other name := by
  have locals := states.locals
  unfold isBoundHere
  generalize state.locals = here at locals
  generalize other.locals = otherHere at locals
  cases locals with
  | none => exact states.store.contains_eq name
  | some here => exact here.values.contains_eq name

end

/-! ## Expressions -/

def CallsInStep (pair : Pair) (calls other : Calls) : Prop :=
  ∀ {layout name arguments copies inner shape},
    pair.bases.ValuesMatch layout inner arguments copies →
    (∀ function, pair.setup.program.functions.get? name = some function →
      shape = pair.shapes function.name ∧ Shape.Fit pair.shapes function.parameters inner) →
    pair.InStep layout (pair.bases.Matches · shape) (calls name arguments) (other name copies)

section

variable {pair : Pair} {calls other : Calls}

theorem inStep_memory {layout : Layout} {written otherWritten : State → Memory}
    (same : ∀ {state other}, pair.StatesMatch layout state other →
      written state = otherWritten other) :
    pair.InStep layout (fun _ _ _ => True)
      (modify fun state => { state with memory := written state } : Machine Unit)
      (modify fun state => { state with memory := otherWritten state } : Machine Unit) :=
  .changing fun states => ⟨layout, .refl layout, { states with memory := same states }⟩

theorem inStep_computed {layout : Layout} {shape : Shape} {outcome copy : Except Fault Value}
    (same : outcome = copy) (scalar : ∀ {value}, copy = .ok value → value.isReference = false) :
    pair.InStep layout (pair.bases.Matches · shape) (Machine.lift outcome) (Machine.lift copy) := by
  subst same
  cases outcome with
  | error fault => exact .throw _
  | ok value => exact .pure (.scalar (scalar rfl))

mutual

theorem inStep_evaluate (sound : pair.IsSound) (callsInStep : pair.CallsInStep calls other) :
    ∀ {expression : LoopExpr} {shape : Shape} {layout : Layout},
      expression.HasShape pair.shapes pair.setup.program.functions shape →
      pair.InStep layout (pair.bases.Matches · shape) (evaluate calls expression)
        (evaluate other expression)
  | .constant value, shape, layout, has => by
      rw [LoopExpr.HasShape] at has
      intro state otherState states
      rcases @Bases.HeapsMatch.copy _ _ _ _ shape states.heaps _ has with
        ⟨later, grows, heaps, same⟩
      exact .ok grows (states.withHeaps grows heaps) same
  | .var name, shape, layout, has => by
      rw [LoopExpr.HasShape] at has
      subst has
      rw [evaluate, evaluate]
      exact inStep_load sound name
  | .unary operator operand, shape, layout, has => by
      rw [LoopExpr.HasShape] at has
      rcases has with ⟨inner, has⟩
      rw [evaluate, evaluate]
      refine (inStep_evaluate sound callsInStep has).bind fun _ same => .pure ?_
      rw [Bases.Agree.apply_eq ⟨_, same⟩]
      exact .scalar (UnaryOperator.isReference_apply _ _)
  | .binary operator left right, shape, layout, has => by
      rw [LoopExpr.HasShape] at has
      rcases has with ⟨⟨leftShape, hasLeft⟩, rightShape, hasRight⟩
      rw [evaluate, evaluate]
      refine (inStep_evaluate sound callsInStep hasLeft).bind fun _ sameLeft => ?_
      refine (inStep_evaluate sound callsInStep hasRight).bind fun grows sameRight => ?_
      refine .observe fun states => inStep_computed ?_ BinaryOperator.isReference_of_apply
      exact states.heaps.apply_eq operator ⟨_, sameLeft.mono grows⟩ ⟨_, sameRight⟩
  | .index name indices, shape, layout, has => by
      rw [LoopExpr.HasShape] at has
      rcases has with ⟨⟨inner, hasIndices⟩, hasElement⟩
      rw [evaluate, evaluate]
      refine (inStep_evaluateAll sound callsInStep hasIndices).bind fun _ same => ?_
      refine (inStep_load sound name).bind fun grows sameTarget => .observe fun states => .lift ?_
      rw [LoopExpr.length_of_haveShapes hasIndices, ← same.length_eq] at hasElement
      exact states.heaps.indexValue (same.mono grows).agree sameTarget hasElement
  | .builtin name routine arguments, shape, layout, has => by
      rw [LoopExpr.HasShape] at has
      rcases has with ⟨inner, hasArguments, returns⟩
      rw [evaluate, evaluate]
      refine (inStep_evaluateAll sound callsInStep hasArguments).bind fun _ same => ?_
      exact .onHeap fun heaps => heaps.applyRoutine same returns
  | .call name arguments, shape, layout, has => by
      rw [LoopExpr.HasShape] at has
      rcases has with ⟨inner, hasArguments, accepts⟩
      rw [evaluate, evaluate]
      exact (inStep_evaluateAll sound callsInStep hasArguments).bind fun _ same =>
        callsInStep same accepts
  | .writeMemory arguments, shape, layout, has => by
      rw [LoopExpr.HasShape] at has
      rcases has with ⟨inner, hasArguments⟩
      rw [evaluate, evaluate]
      refine (inStep_evaluateAll sound callsInStep hasArguments).bind fun _ same => ?_
      refine .bind (inStep_memory fun states => ?_) fun _ _ => .pure (.scalar rfl)
      have argument (index : Nat) := Bases.HeapsMatch.argument same.agree index
      rw [states.memory, states.heaps.moveOf_eq (argument 0) (argument 1) (argument 2)]

theorem inStep_evaluateAll (sound : pair.IsSound) (callsInStep : pair.CallsInStep calls other) :
    ∀ {expressions : List LoopExpr} {inner : List Shape} {layout : Layout},
      LoopExpr.HaveShapes pair.shapes pair.setup.program.functions expressions inner →
      pair.InStep layout (pair.bases.ValuesMatch · inner) (evaluateAll calls expressions)
        (evaluateAll other expressions)
  | [], [], layout, _ => by
      rw [evaluateAll, evaluateAll]
      exact .pure .nil
  | expression :: rest, shape :: inner, layout, has => by
      rw [LoopExpr.HaveShapes] at has
      rw [evaluateAll, evaluateAll]
      refine (inStep_evaluate sound callsInStep has.1).bind fun _ same => ?_
      refine (inStep_evaluateAll sound callsInStep has.2).bind fun grows sameRest => ?_
      exact .pure (.cons (same.mono grows) sameRest)
  | [], _ :: _, _, has | _ :: _, [], _, has => by simp [LoopExpr.HaveShapes] at has

end

variable (sound : pair.IsSound) (callsInStep : pair.CallsInStep calls other)

include sound callsInStep

theorem inStep_operand {layout : Layout} {expression : LoopExpr}
    (shaped : expression.IsShaped pair.shapes pair.setup.program.functions) :
    pair.InStep layout pair.bases.Agree (evaluate calls expression) (evaluate other expression) := by
  rcases shaped with ⟨shape, has⟩
  intro state otherState states
  have ended := inStep_evaluate sound callsInStep has _ _ states
  generalize evaluate calls expression pair.setup state = result at ended
  generalize evaluate other expression pair.other otherState = otherResult at ended
  cases ended with
  | ok grows states same => exact .ok grows states ⟨shape, same⟩
  | error grows states isLike => exact .error grows states isLike

theorem inStep_evaluateOptional {layout : Layout} {expression : Option LoopExpr}
    (shaped : ∀ given ∈ expression, given.IsShaped pair.shapes pair.setup.program.functions) :
    pair.InStep layout (fun later => Option.Rel (pair.bases.Agree later))
      (evaluateOptional calls expression) (evaluateOptional other expression) := by
  cases expression with
  | none => exact .pure .none
  | some expression =>
      exact (inStep_operand sound callsInStep (shaped expression rfl)).map fun _ same => .some same

/-! ## Simple statements -/

theorem inStep_initialValue {layout : Layout} {declaration : LoopDeclaration}
    (shaped : declaration.IsShaped pair.shapes pair.setup.program.functions) :
    pair.InStep layout (pair.bases.Matches · (pair.shapes declaration.name))
      (initialValue calls declaration) (initialValue other declaration) := by
  rcases shaped with ⟨⟨inner, hasBounds⟩, items, isArray⟩
  unfold initialValue
  split
  · exact .pure (.scalar (isReference_initial _))
  · refine (inStep_evaluateAll sound callsInStep hasBounds).bind fun {later values _} _ same => ?_
    refine .onHeap fun heaps => ?_
    have dimensions := map_eq_map_of_forall₂ same.agree fun agree => agree.dimensionOfBound_eq
    have array := heaps.newArray (values.map dimensionOfBound) declaration.type items
    rw [← dimensions]
    rw [LoopExpr.length_of_haveShapes hasBounds, ← same.length_eq] at isArray
    rw [List.length_map, ← isArray] at array
    exact array

theorem inStep_declareAll : ∀ {declarations : List LoopDeclaration} {layout : Layout},
    (∀ declaration ∈ declarations,
      declaration.IsShaped pair.shapes pair.setup.program.functions) →
    pair.InStep layout (fun _ _ _ => True) (declareAll calls declarations)
      (declareAll other declarations)
  | [], layout, _ => .pure trivial
  | declaration :: rest, layout, shaped => by
      have declared : pair.InStep layout (fun _ _ _ => True) (declare calls declaration)
          (declare other declaration) := by
        refine .observe fun states => ?_
        rw [states.isBoundHere_eq]
        split
        · exact .pure trivial
        · refine (inStep_initialValue sound callsInStep
            (shaped declaration List.mem_cons_self)).bind fun _ same => ?_
          exact inStep_bindHere same declaration.type
      exact declared.bind fun _ _ => inStep_declareAll fun declaration member =>
        shaped declaration (List.mem_cons_of_mem _ member)

omit sound callsInStep in
theorem inStep_updateElement {layout : Layout} {indices copies : List Value} {shape stored : Shape}
    {target targetCopy value valueCopy : Value}
    (sameIndices : List.Forall₂ (pair.bases.Agree layout) indices copies)
    (sameTarget : pair.bases.Matches layout shape target targetCopy)
    (same : pair.bases.Matches layout stored value valueCopy)
    (has : shape.HasSlot indices.length stored) :
    pair.InStep layout (fun _ _ _ => True) (updateElement target indices value)
      (updateElement targetCopy copies valueCopy) := by
  refine .observe fun states => ?_
  have slot : pair.InStep layout (pair.bases.SlotsMatch · stored) (Machine.lift _)
    (Machine.lift _) := .lift (states.heaps.growingSlot sameIndices sameTarget has)
  refine slot.bind fun grows sameSlot => .changing fun states => ?_
  rcases states.heaps.write sameSlot (same.mono grows) with ⟨later, growsMore, heaps⟩
  exact ⟨later, growsMore, states.withHeaps growsMore heaps⟩

theorem inStep_assignElement {layout : Layout} {name : String} {indices : List LoopExpr}
    {value : LoopExpr} {inner : List Shape} {stored : Shape}
    (hasIndices : LoopExpr.HaveShapes pair.shapes pair.setup.program.functions indices inner)
    (hasValue : value.HasShape pair.shapes pair.setup.program.functions stored)
    (has : (pair.shapes name).HasSlot indices.length stored) :
    pair.InStep layout (fun _ _ _ => True) (assignElement calls name indices value)
      (assignElement other name indices value) := by
  refine (inStep_evaluate sound callsInStep hasValue).bind fun _ same => ?_
  refine (inStep_evaluateAll sound callsInStep hasIndices).bind fun grows sameIndices => ?_
  refine (inStep_load sound name).bind fun growsMore sameTarget => ?_
  rw [LoopExpr.length_of_haveShapes hasIndices, ← sameIndices.length_eq] at has
  exact inStep_updateElement (sameIndices.mono growsMore).agree sameTarget
    (same.mono (grows.trans growsMore)) has

theorem inStep_overwriteText {layout : Layout} {name : String} {start value : LoopExpr}
    {length : Option LoopExpr}
    (shapedStart : start.IsShaped pair.shapes pair.setup.program.functions)
    (shapedLength : ∀ given ∈ length, given.IsShaped pair.shapes pair.setup.program.functions)
    (shapedValue : value.IsShaped pair.shapes pair.setup.program.functions) :
    pair.InStep layout (fun _ _ _ => True) (overwriteText calls name start length value)
      (overwriteText other name start length value) := by
  refine (inStep_operand sound callsInStep shapedValue).bind fun _ sameValue => ?_
  refine .observe fun states => ?_
  rw [states.heaps.text_eq sameValue]
  refine (inStep_operand sound callsInStep shapedStart).bind fun _ sameStart => ?_
  refine (inStep_evaluateOptional sound callsInStep shapedLength).bind fun _ sameLength => ?_
  refine (inStep_load sound name).bind fun _ sameVariable => .observe fun states => ?_
  have counts := map_eq_map_of_rel sameLength fun agree => congrArg Int64.toInt agree.toInteger_eq
  rw [sameStart.toInteger_eq, states.heaps.text_eq ⟨_, sameVariable⟩, counts]
  refine (InStep.lift_same _).bind fun _ same => ?_
  subst same
  exact inStep_store sound (.scalar rfl)

end

/-! ## Loops -/

section

variable {pair : Pair} (sound : pair.IsSound)

include sound

theorem inStep_advance {layout : Layout} (index : String) {step : Value}
    (scalarStep : step.isReference = false) :
    pair.InStep layout (fun _ _ _ => True) (advance index step) (advance index step) := by
  refine (inStep_load sound index).bind fun _ same => .observe fun states => ?_
  have sum := states.heaps.apply_eq .add ⟨_, same⟩ ⟨.scalar, .scalar scalarStep⟩
  exact (inStep_computed sum BinaryOperator.isReference_of_apply).bind fun _ same =>
    inStep_store sound same

theorem inStep_rangeLoop {body otherBody : Machine Flow}
    (inStep : ∀ {layout}, pair.InStep layout (fun _ => Eq) body otherBody) (index : String)
    {finish step : Value} (scalarFinish : finish.isReference = false)
    (scalarStep : step.isReference = false) (descending : Bool) (left : Nat) {layout : Layout} :
    pair.InStep layout (fun _ => Eq) (rangeLoop body index finish step descending left)
      (rangeLoop otherBody index finish step descending left) := by
  induction left generalizing layout with
  | zero => exact .throw _
  | succ left induction =>
      refine (inStep_load sound index).bind fun _ same => .observe fun states => ?_
      rw [states.heaps.compareValues_eq ⟨_, same⟩ ⟨.scalar, .scalar scalarFinish⟩]
      split
      · exact .pure rfl
      refine (inStep_countIteration sound).bind fun _ _ => inStep.bind fun _ same => ?_
      subst same
      split
      · exact (inStep_advance sound index scalarStep).bind fun _ _ => induction
      all_goals exact .pure rfl

theorem inStep_eachLoop {body otherBody : Machine Flow}
    (inStep : ∀ {layout}, pair.InStep layout (fun _ => Eq) body otherBody) (index : String)
    {items others : List Value} {layout : Layout}
    (same : List.Forall₂ (pair.bases.Matches layout (pair.shapes index)) items others) :
    pair.InStep layout (fun _ => Eq) (eachLoop body index items)
      (eachLoop otherBody index others) := by
  induction items generalizing layout others with
  | nil =>
      cases same
      exact .pure rfl
  | cons item rest induction =>
      rcases same with _ | ⟨first, sameRest⟩
      refine (inStep_countIteration sound).bind fun grows _ => ?_
      refine (inStep_store sound (first.mono grows)).bind fun growsMore _ => ?_
      refine inStep.bind fun growsLast same => ?_
      subst same
      split
      · exact induction (Bases.HeapsMatch.items_mono (grows.trans (growsMore.trans growsLast)) sameRest)
      all_goals exact .pure rfl

theorem inStep_conditionalLoop {body otherBody : Machine Flow}
    (inStep : ∀ {layout}, pair.InStep layout (fun _ => Eq) body otherBody)
    {condition otherCondition : Machine Bool}
    (tests : ∀ {layout}, pair.InStep layout (fun _ => Eq) condition otherCondition)
    (testFirst : Bool) (left : Nat) {layout : Layout} :
    pair.InStep layout (fun _ => Eq) (conditionalLoop body condition testFirst left)
      (conditionalLoop otherBody otherCondition testFirst left) := by
  have testsWhen (tested : Bool) {layout : Layout} : pair.InStep layout (fun _ => Eq)
      (testWhen tested condition) (testWhen tested otherCondition) := by
    cases tested with
    | false => exact .pure rfl
    | true => exact tests
  induction left generalizing layout with
  | zero => exact .throw _
  | succ left induction =>
      refine (testsWhen testFirst).bind fun _ same => ?_
      subst same
      split
      · exact .pure rfl
      refine (inStep_countIteration sound).bind fun _ _ => inStep.bind fun _ same => ?_
      subst same
      split
      · refine (testsWhen _).bind fun _ same => ?_
        subst same
        split
        · exact .pure rfl
        · exact induction
      all_goals exact .pure rfl

variable {calls other : Calls} (callsInStep : pair.CallsInStep calls other)

include callsInStep

theorem inStep_goesOn {condition : Option (LoopTest × LoopExpr)}
    (shaped : ∀ test ∈ condition, test.2.IsShaped pair.shapes pair.setup.program.functions)
    {layout : Layout} :
    pair.InStep layout (fun _ => Eq) (goesOn calls condition) (goesOn other condition) := by
  rcases condition with _ | ⟨test, condition⟩
  · exact .pure rfl
  · have evaluates {layout : Layout} := @inStep_operand pair calls other sound callsInStep layout
      condition (shaped _ rfl)
    cases test <;>
    · refine evaluates.bind fun _ same => .observe fun states => ?_
      rw [states.heaps.isTruthy_eq same]
      exact .pure rfl

end

/-! ## Statements -/

section

variable {pair : Pair} {calls other : Calls}

mutual

/-- A statement that keeps the shapes of variables takes both runs on alike. -/
theorem inStep_execute (sound : pair.IsSound) (callsInStep : pair.CallsInStep calls other) :
    ∀ {nested : Bool} {guard : Guard} {statement : LoopStatement} {layout : Layout},
      statement.IsShaped pair.shapes pair.setup.program.functions →
      pair.InStep layout (fun _ => Eq) (execute calls nested guard statement)
        (execute other nested guard statement)
  | nested, guard, .dim declarations, layout, shaped => by
      rw [LoopStatement.IsShaped] at shaped
      rw [execute, execute]
      exact (inStep_tick sound).bind fun _ _ =>
        (inStep_declareAll sound callsInStep shaped).bind fun _ _ => .pure rfl
  | nested, guard, .assign name value, layout, shaped => by
      rw [LoopStatement.IsShaped] at shaped
      rw [execute, execute]
      exact (inStep_tick sound).bind fun _ _ =>
        (inStep_evaluate sound callsInStep shaped).bind fun _ same =>
          (inStep_store sound same).bind fun _ _ => .pure rfl
  | nested, guard, .assignElement name indices value, layout, shaped => by
      rw [LoopStatement.IsShaped] at shaped
      rcases shaped with ⟨⟨inner, hasIndices⟩, stored, hasValue, hasSlot⟩
      rw [execute, execute]
      exact (inStep_tick sound).bind fun _ _ =>
        (inStep_assignElement sound callsInStep hasIndices hasValue hasSlot).bind
          fun _ _ => .pure rfl
  | nested, guard, .overwrite name start length value, layout, shaped => by
      rw [LoopStatement.IsShaped] at shaped
      rw [execute, execute]
      exact (inStep_tick sound).bind fun _ _ =>
        (inStep_overwriteText sound callsInStep shaped.1 shaped.2.1 shaped.2.2).bind
          fun _ _ => .pure rfl
  | nested, guard, .evaluate expression, layout, shaped => by
      rw [LoopStatement.IsShaped] at shaped
      rw [execute, execute]
      exact (inStep_tick sound).bind fun _ _ =>
        (inStep_operand sound callsInStep shaped).bind fun _ _ => .pure rfl
  | nested, guard, .branch arms otherwise, layout, shaped => by
      rw [LoopStatement.IsShaped] at shaped
      rw [execute, execute]
      exact (inStep_tick sound).bind fun _ _ =>
        inStep_executeArms sound callsInStep (inStep_executeBlock sound callsInStep shaped.2) shaped.1
  | nested, guard, .forRange index start finish step body, layout, shaped => by
      rw [LoopStatement.IsShaped] at shaped
      rcases shaped with ⟨shapedStart, shapedFinish, shapedStep, shapedBody⟩
      rw [execute, execute]
      refine (inStep_tick sound).bind fun _ _ => ?_
      refine (inStep_operand sound callsInStep shapedStart).bind fun _ sameStart => ?_
      refine (inStep_operand sound callsInStep shapedFinish).bind fun _ sameFinish => ?_
      refine (inStep_evaluateOptional sound callsInStep shapedStep).bind fun _ sameStep => ?_
      rw [sameStart.toNumber_eq, sameFinish.toNumber_eq, (agree_getD rfl sameStep).toNumber_eq]
      refine (inStep_store sound (.scalar (Value.isReference_toNumber _))).bind fun _ _ =>
        .consult ?_
      rw [sound.maxIterations]
      exact inStep_rangeLoop sound (inStep_executeBlock sound callsInStep shapedBody) index
        (Value.isReference_toNumber _) (Value.isReference_toNumber _) _ _
  | nested, guard, .forEach index items body, layout, shaped => by
      rw [LoopStatement.IsShaped] at shaped
      rcases shaped with ⟨⟨shape, hasItems, isItem⟩, shapedBody⟩
      rw [execute, execute]
      refine (inStep_tick sound).bind fun _ _ => ?_
      refine (inStep_evaluate sound callsInStep hasItems).bind fun _ same => .observe fun states => ?_
      have items : pair.InStep _ (fun later =>
          List.Forall₂ (pair.bases.Matches later (pair.shapes index))) (Machine.lift _)
          (Machine.lift _) := .lift (states.heaps.iterationItems same isItem)
      refine items.bind fun _ sameItems => ?_
      exact inStep_eachLoop sound (inStep_executeBlock sound callsInStep shapedBody) index sameItems
  | nested, guard, .conditional condition testFirst body, layout, shaped => by
      rw [LoopStatement.IsShaped] at shaped
      rw [execute, execute]
      refine (inStep_tick sound).bind fun _ _ => .consult ?_
      rw [sound.maxIterations]
      exact inStep_conditionalLoop sound (inStep_executeBlock sound callsInStep shaped.2)
        (inStep_goesOn sound callsInStep shaped.1) testFirst _
  | nested, guard, .break kind, layout, _ => by
      rw [execute, execute]
      exact (inStep_tick sound).bind fun _ _ => .pure rfl
  | nested, guard, .return, layout, _ => by
      rw [execute, execute]
      exact (inStep_tick sound).bind fun _ _ => .pure rfl

theorem inStep_executeArms (sound : pair.IsSound) (callsInStep : pair.CallsInStep calls other) :
    ∀ {nested : Bool} {guard : Guard} {otherwise otherOtherwise : Machine Flow}
      {arms : List LoopArm} {layout : Layout},
      (∀ {layout}, pair.InStep layout (fun _ => Eq) otherwise otherOtherwise) →
      LoopStatement.AreShapedArms pair.shapes pair.setup.program.functions arms →
      pair.InStep layout (fun _ => Eq) (executeArms calls nested guard otherwise arms)
        (executeArms other nested guard otherOtherwise arms)
  | nested, guard, otherwise, otherOtherwise, [], layout, inStep, _ => by
      rw [executeArms, executeArms]
      exact inStep
  | nested, guard, otherwise, otherOtherwise, arm :: rest, layout, inStep, shaped => by
      rw [LoopStatement.AreShapedArms] at shaped
      rw [executeArms, executeArms]
      exact inStep_executeArm sound callsInStep
        (inStep_executeArms sound callsInStep inStep shaped.2) shaped.1

theorem inStep_executeArm (sound : pair.IsSound) (callsInStep : pair.CallsInStep calls other) :
    ∀ {nested : Bool} {guard : Guard} {otherwise otherOtherwise : Machine Flow} {arm : LoopArm}
      {layout : Layout}, (∀ {layout}, pair.InStep layout (fun _ => Eq) otherwise otherOtherwise) →
      LoopStatement.IsShapedArm pair.shapes pair.setup.program.functions arm →
      pair.InStep layout (fun _ => Eq) (executeArm calls nested guard otherwise arm)
        (executeArm other nested guard otherOtherwise arm)
  | nested, guard, otherwise, otherOtherwise, .mk condition body, layout, inStep, shaped => by
      rw [LoopStatement.IsShapedArm] at shaped
      rw [executeArm, executeArm]
      refine (inStep_operand sound callsInStep shaped.1).bind fun _ same => .observe fun states => ?_
      rw [states.heaps.isTruthy_eq same]
      split
      · exact inStep_executeBlock sound callsInStep shaped.2
      · exact inStep

theorem inStep_executeBlock (sound : pair.IsSound) (callsInStep : pair.CallsInStep calls other) :
    ∀ {nested : Bool} {guard : Guard} {statements : List LoopStatement} {layout : Layout},
      LoopStatement.AreShaped pair.shapes pair.setup.program.functions statements →
      pair.InStep layout (fun _ => Eq) (executeBlock calls nested guard statements)
        (executeBlock other nested guard statements)
  | nested, guard, [], layout, _ => by
      rw [executeBlock, executeBlock]
      exact .pure rfl
  | nested, guard, statement :: rest, layout, shaped => by
      rw [LoopStatement.AreShaped] at shaped
      rw [executeBlock, executeBlock]
      refine (inStep_guarded sound guard
        (inStep_execute sound callsInStep shaped.1)).bind fun _ same => ?_
      subst same
      split
      · exact inStep_executeBlock sound callsInStep shaped.2
      · exact .pure rfl

end

end

/-! ## Calls -/

section

variable {pair : Pair}

theorem inStep_bindParameters : ∀ {parameters : List (String × Option DeclaredType)}
    {arguments copies : List Value} {inner : List Shape} {layout : Layout},
    pair.bases.ValuesMatch layout inner arguments copies →
    Shape.Fit pair.shapes parameters inner →
    pair.InStep layout (fun _ _ _ => True) (bindParameters parameters arguments)
      (bindParameters parameters copies)
  | [], _, _, _, layout, _, _ => .pure trivial
  | parameter :: rest, _, _, _, layout, .nil, _ => by
      refine .observe fun states => ?_
      refine (inStep_bindHere (Bases.HeapsMatch.coerceTo (.scalar rfl) _ _ _) _).bind
        fun _ _ => ?_
      exact inStep_bindParameters .nil (by cases rest <;> trivial)
  | parameter :: rest, _, _, _, layout, .cons same sameRest, fits => by
      rw [Shape.Fit] at fits
      rcases fits with ⟨rfl, fits⟩
      refine .observe fun states => ?_
      refine (inStep_bindHere (Bases.HeapsMatch.coerceTo same _ _ _) _).bind fun grows _ => ?_
      exact inStep_bindParameters (sameRest.mono grows) fits

theorem inStep_bindResult {layout : Layout} (function : LoopFunction) :
    pair.InStep layout (fun _ _ _ => True) (bindResult function) (bindResult function) := by
  unfold bindResult
  split
  · exact inStep_bindHere (.scalar (isReference_initial _)) _
  · exact .pure trivial

theorem inStep_resultOf {layout : Layout} (function : LoopFunction) :
    pair.InStep layout (pair.bases.Matches · (pair.shapes function.name)) (resultOf function)
      (resultOf function) := by
  intro state other states
  have locals := states.locals
  refine .ok (.refl layout) states ?_
  split
  · generalize state.locals = here at locals
    generalize other.locals = otherHere at locals
    cases locals with
    | none => exact .scalar rfl
    | some here => exact matches_getD (here.values function.name)
  · exact .scalar rfl

theorem inStep_runFunction (sound : pair.IsSound) {calls other : Calls}
    (callsInStep : pair.CallsInStep calls other) {function : LoopFunction}
    (shaped : LoopStatement.AreShaped pair.shapes pair.setup.program.functions function.body)
    {layout : Layout} {inner : List Shape} {arguments copies : List Value}
    (same : pair.bases.ValuesMatch layout inner arguments copies)
    (fits : Shape.Fit pair.shapes function.parameters inner) :
    pair.InStep layout (pair.bases.Matches · (pair.shapes function.name))
      (runFunction calls function arguments) (runFunction other function copies) :=
  (inStep_bindResult function).bind fun grows _ =>
    (inStep_bindParameters (same.mono grows) fits).bind fun _ _ =>
      (inStep_executeBlock sound callsInStep shaped).bind fun _ _ => inStep_resultOf function

def entering (pair : Pair) : Pair :=
  { pair with
    limiter.depth := pair.limiter.depth + 1
    otherLimiter.depth := pair.otherLimiter.depth + 1 }

theorem IsSound.entering (sound : pair.IsSound) : pair.entering.IsSound :=
  { sound with
    sameRoom := by
      have room := sound.sameRoom
      simp only [Pair.entering]
      omega }

theorem StatesMatch.enter (sound : pair.IsSound) {layout : Layout} {state other : State}
    (states : pair.StatesMatch layout state other) :
    (∃ limiter otherLimiter, state.limiter.enter = .ok limiter ∧
      other.limiter.enter = .ok otherLimiter ∧
      pair.entering.StatesMatch layout { state with limiter, locals := some {} }
        { other with limiter := otherLimiter, locals := some {} }) ∨
    ∃ depth otherDepth, state.limiter.enter = .error (.recursionLimit depth) ∧
      other.limiter.enter = .error (.recursionLimit otherDepth) := by
  have ticks := states.ticks
  have otherTicks := states.otherTicks
  have sameRoom := sound.sameRoom
  unfold Limiter.enter
  dsimp only
  by_cases tooDeep : state.limiter.maxDepth < state.limiter.depth + 1
  · have otherTooDeep : other.limiter.maxDepth < other.limiter.depth + 1 := by
      rw [ticks.depth, ticks.maxDepth] at tooDeep
      rw [otherTicks.depth, otherTicks.maxDepth]
      omega
    rw [if_pos tooDeep, if_pos otherTooDeep]
    exact .inr ⟨_, _, rfl, rfl⟩
  · have otherWithin : ¬ other.limiter.maxDepth < other.limiter.depth + 1 := by
      rw [ticks.depth, ticks.maxDepth] at tooDeep
      rw [otherTicks.depth, otherTicks.maxDepth]
      omega
    rw [if_neg tooDeep, if_neg otherWithin]
    refine .inl ⟨_, _, rfl, rfl, ?_⟩
    exact
      { states with
        locals := .some { values := .empty, types := fun _ => rfl }
        ticks := ⟨ticks.maxDepth, congrArg (· + 1) ticks.depth, ticks.deadline⟩
        otherTicks :=
          ⟨otherTicks.maxDepth, congrArg (· + 1) otherTicks.depth, otherTicks.deadline⟩ }

theorem StatesMatch.leave {layout later : Layout} {state other after otherAfter : State}
    (states : pair.StatesMatch layout state other) (grows : layout.Grows later)
    (afterwards : pair.entering.StatesMatch later after otherAfter) :
    pair.StatesMatch later
      { after with locals := state.locals, limiter := after.limiter.leave }
      { otherAfter with locals := other.locals, limiter := otherAfter.limiter.leave } := by
  have ticks := afterwards.ticks
  have otherTicks := afterwards.otherTicks
  exact
    { afterwards with
      locals := rel_imp (fun same => same.mono grows) states.locals
      ticks := ⟨ticks.maxDepth, congrArg (· - 1) ticks.depth, ticks.deadline⟩
      otherTicks := ⟨otherTicks.maxDepth, congrArg (· - 1) otherTicks.depth, otherTicks.deadline⟩ }

/-- The functions of two runs take them on alike, however deep the calls still nest. -/
theorem callsInStep_callFunction (left : Nat) {pair : Pair} (sound : pair.IsSound) :
    pair.CallsInStep (callFunction left) (callFunction left) := by
  induction left generalizing pair with
  | zero =>
      intro layout name arguments copies inner shape same accepts state other states
      unfold callFunction
      rw [← sound.functions name]
      split
      · exact .error (.refl layout) states (.same _)
      · exact .error (.refl layout) states (.tooDeep _ _)
  | succ left induction =>
      intro layout name arguments copies inner shape same accepts state other states
      unfold callFunction
      rw [← sound.functions name]
      split
      · exact .error (.refl layout) states (.same _)
      · rename_i function found
        rcases accepts function found with ⟨rfl, fits⟩
        rcases states.enter sound with ⟨limiter, otherLimiter, entered, otherEntered, inside⟩ |
          ⟨depth, otherDepth, entered, otherEntered⟩
        · have ended : pair.entering.Ends layout (pair.bases.Matches · (pair.shapes function.name))
              (runFunction (callFunction left) function arguments pair.setup _)
              (runFunction (callFunction left) function copies pair.other _) :=
            inStep_runFunction sound.entering (induction sound.entering)
              (sound.areShaped name function found) same fits _ _ inside
          simp only [entered, otherEntered]
          generalize runFunction _ function arguments _ _ = result at ended
          generalize runFunction _ function copies _ _ = otherResult at ended
          cases ended with
          | ok grows afterwards sameValue =>
              exact .ok grows (states.leave grows afterwards) sameValue
          | error grows afterwards isLike =>
              exact .error grows (states.leave grows afterwards) isLike
        · simp only [entered, otherEntered]
          exact .error (.refl layout) states (.tooDeep depth otherDepth)

end

end Pair

end Machine

end MacroSandbox
