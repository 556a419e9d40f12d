import MacroSandbox.Proofs.Composition
import MacroSandbox.Proofs.LoopCache

/-! How evaluations change a state.

Values, names, files and what is remembered change freely. What else there is in a state changes in a
few ways only: evidence is added, errors are raised and handled, and calls and `With` blocks are left
as they were entered. What holds of each of these ways holds of everything that the interpreter
does. -/

namespace MacroSandbox

/-! ## Ways to change a state -/

/-- What does not change freely: the calls under way, the collected evidence, and the `With` blocks and
errors of the frame. -/
structure Account where
  maxDepth : Nat
  depth : Nat
  actions : Array Action
  sink : Option (Array Action)
  memory : Memory
  indicators : Indicators
  errorCount : Nat
  receivers : List Receiver
  errorState : ErrorState
  errorMode : ErrorMode

namespace State

def account (state : State) : Account :=
  { maxDepth := state.run.limiter.maxDepth
    depth := state.run.limiter.depth
    actions := state.run.actions
    sink := state.run.sink
    memory := state.run.memory
    indicators := state.run.indicators
    errorCount := state.run.errorCount
    receivers := state.frame.receivers
    errorState := state.frame.errorState
    errorMode := state.frame.errorMode }

/-- How a state changes during an evaluation with a role in the errors of its frame. -/
inductive Evolves : ErrorRole → State → State → Prop
  | freely {role : ErrorRole} {before after : State} (same : after.account = before.account) :
      Evolves role before after
  | trans {role : ErrorRole} {before between after : State} (left : Evolves role before between)
      (right : Evolves role between after) : Evolves role before after
  | scan {role : ErrorRole} (state : State) (content : String) :
      Evolves role state
        { state with run.indicators := state.run.indicators.scan content }
  | report {role : ErrorRole} (state : State) (action : Action)
      (quiet : action.kind ∉ announcementKinds) :
      Evolves role state
        { state with
          run.actions := state.run.actions.push action
          run.sink := state.run.sink.map (·.push action) }
  | writeMemory {role : ErrorRole} (state : State) (moves : Array Move) :
      Evolves role state { state with run.memory.moves := state.run.memory.moves ++ moves }
  | countError {role : ErrorRole} (state : State) (error : ErrorInfo) :
      Evolves role state
        { state with run.errorCount := state.run.errorCount + 1, run.lastError := error }
  | raisePending {role : ErrorRole} (state : State) :
      Evolves role state { state with frame := state.frame.raisePending }
  | setErrorTarget {role : ErrorRole} (state : State) (target : ErrorTarget)
      (directs : role ≠ .raises) :
      Evolves role state { state with frame := Engine.errorTargetFrame target state.frame }
  | clearError (state : State) : Evolves .handles state { state with frame.errorState := .clear }
  | takeHandler (state : State) :
      Evolves .handles state
        { state with
          frame.errorState := .handled
          frame.errorMode := .default
          frame.handler := none }
  | withBlock {role : ErrorRole} {state after : State} (receiver : Receiver)
      (inside : Evolves role
        { state with frame.receivers := receiver :: state.frame.receivers } after) :
      Evolves role state (Eval.withoutReceiver after)
  | receiver {role : ErrorRole} {state after : State} {receiver : Receiver}
      {outer : List Receiver} (innermost : state.frame.receivers = receiver :: outer)
      (unknown : receiver.value = none) (value : Option Value)
      (outside : Evolves role (Eval.withoutReceiver state) after) :
      Evolves role state (Engine.putBack { receiver with value } after)
  | call {role : ErrorRole} {state after : State} {limiter : Limiter}
      (enters : state.run.limiter.enter = .ok limiter)
      (inside : Evolves .handles
        { state with frame := state.frame.child, run.limiter := limiter } after) :
      Evolves role state (Engine.backInFrame state.frame after)

namespace Evolves

variable {role : ErrorRole} {environment : Environment} {state : State}

theorem refl (state : State) : state.Evolves role state :=
  .freely rfl

theorem isPreorder : IsPreorder (Evolves role) where
  refl := refl
  trans := .trans

/-! ### Assignments -/

theorem account_bind (placement : Placement) (name : String) (binding : Binding) :
    (state.bind placement name binding).account = state.account := by
  unfold State.bind
  split <;> rfl

theorem account_convertNode (placement : Placement) (name : String) (value : Value) :
    (state.convertNode environment placement name value).account = state.account := by
  unfold convertNode
  dsimp only
  split
  · split
    · rfl
    · split
      · exact account_bind _ _ _
      · rfl
  · split
    · exact account_bind _ _ _
    · rfl

theorem scanValue (state : State) (value : Value) : state.Evolves role (state.scanValue value) := by
  cases value with
  | text content => exact .scan state content
  | _ => exact refl state

theorem assign (environment : Environment) (state : State) (placement : Placement)
    (type : Option DeclaredType) (name : String) (value : Value) :
    state.Evolves role (state.assign environment placement type name value) := by
  have untyped (state : State) :
      state.Evolves role (state.assign environment placement none name value) := by
    unfold State.assign
    dsimp only
    exact .trans (scanValue state _)
      (.freely ((account_bind _ _ _).trans (account_convertNode _ _ _)))
  cases type with
  | none => exact untyped state
  | some type =>
      have typed : state.Evolves role (state.setType (state.storedName name) type) := .freely rfl
      exact typed.trans (untyped _)

/-! ### Compiled loops -/

theorem mergeUpdates (state : State) (updates : List (String × Datum)) :
    state.Evolves role (state.mergeUpdates environment updates) := by
  induction updates generalizing state with
  | nil => exact refl state
  | cons update rest induction =>
      rcases update with ⟨name, final⟩
      have merged (state : State) (value : Value) :
          state.Evolves role (state.mergeValue environment name value) := by
        unfold mergeValue
        split
        · exact .freely rfl
        · exact .freely rfl
        · exact assign environment state .automatic none name _
      have built : state.Evolves role { state with heap := (final.build state.heap).2 } :=
        .freely rfl
      exact built.trans ((merged _ (final.build state.heap).1).trans (induction _))

theorem mergeTypes (state : State) (types : List (String × DeclaredType)) :
    state.Evolves role (state.mergeTypes types) := by
  induction types generalizing state with
  | nil => exact refl state
  | cons entry rest induction =>
      rcases entry with ⟨name, type⟩
      have typed : state.Evolves role (state.setType name type) := .freely rfl
      rw [State.mergeTypes]
      split
      · exact typed.trans (induction _)
      · exact induction _

theorem mergeResult (state : State) (result : LoopResult)
    (certain : List (String × DeclaredType)) :
    state.Evolves role (state.mergeResult environment result certain) :=
  .trans (mergeUpdates state result.updates)
    (.trans (.writeMemory _ result.memory.moves) (mergeTypes _ certain))

/-- What stands beside a state changes freely, the listener apart. -/
theorem beside {before after : State} (evolves : before.Evolves role after)
    (sameSink : after.run.sink = before.run.sink) (caches : Caches) (ticks : UInt64) :
    before.Evolves role (after.beside caches before.run.sink ticks) := by
  refine evolves.trans (.freely ?_)
  rw [← sameSink]
  rfl

end Evolves

end State

/-! ## Evaluations -/

namespace Eval

variable {α : Type} {role : ErrorRole}

abbrev Evolves (role : ErrorRole) (action : Eval α) : Prop :=
  action.Leads (State.Evolves role)

theorem evolves_of_isStep {action : Eval α} (isStep : IsStep action) : action.Evolves role := by
  intro environment state
  cases isStep with
  | onHeap compute _ =>
      unfold after onHeap
      dsimp only
      cases compute state.heap with
      | mk outcome heap => cases outcome <;> exact .freely rfl
  | tick =>
      unfold after tick
      dsimp only
      cases state.run.limiter.tick.1 <;> exact .freely rfl
  | check =>
      unfold after check
      cases state.run.limiter.check <;> exact .freely rfl
  | assign placement type name value => exact .assign environment state placement type name value
  | report kind value description quiet => exact .report state _ quiet
  | setError fault => exact .trans (.countError state _) (.raisePending _)
  | raisePending => exact .raisePending state
  | closeFile number =>
      unfold after closeFile
      rw [Running.run_bind, Running.run_get]
      dsimp only
      cases state.run.files.close? number with
      | none => exact .refl state
      | some closed =>
          rcases closed with ⟨name, contents, files⟩
          have removed : state.Evolves role { state with run.files := files } := .freely rfl
          have quiet : "Dropped File Hash" ∉ announcementKinds := by decide
          exact removed.trans (.report _ _ quiet)
  | writeMemory move =>
      change State.Evolves role state { state with run.memory := state.run.memory.write move }
      unfold Memory.write
      split
      · exact .refl state
      · rw [Array.push_eq_append]
        exact .writeMemory state #[move]
  | _ => exact .freely rfl

theorem evolves_of_isErrorStep {action : Eval Unit} (isStep : IsErrorStep role action) :
    action.Evolves role := by
  intro environment state
  cases isStep with
  | setTarget target directs => exact .setErrorTarget state target directs
  | clearError => exact .clearError state
  | takeHandler => exact .takeHandler state

theorem withBlock_evolves (object : Expr) {action : Eval α} (evolves : action.Evolves role) :
    Eval.Evolves role (do
      Eval.pushReceiver object
      Eval.afterwards action Eval.withoutReceiver) := by
  intro environment state
  have inside := evolves environment ((Eval.pushReceiver object).after environment state)
  exact (after_afterwards environment _ action withoutReceiver).symm ▸ .withBlock _ inside

theorem receiverValue?_evolves {engine : Engine}
    (evolves : ∀ object, (engine.node object).Evolves role) :
    engine.receiverValue?.Evolves role := by
  intro environment state
  unfold after Engine.receiverValue?
  rw [Running.run_bind, Running.run_get]
  cases innermost : state.frame.receivers with
  | nil =>
      simp only [innermost]
      exact .refl state
  | cons receiver outer =>
      cases unknown : receiver.value with
      | some value =>
          simp only [innermost, unknown]
          exact .refl state
      | none =>
          -- The object is evaluated without its own block, and then the block is put back.
          have outside := Leads.attempt (evolves receiver.object) environment
            (withoutReceiver state)
          simp only [innermost, unknown, Running.run_bind, popReceiver, Running.run_modify,
            Eval.afterwards]
          unfold after at outside
          cases ran : Eval.attempt (engine.node receiver.object) environment
              (withoutReceiver state) with
          | error stop left =>
              rw [ran] at outside
              have returned := State.Evolves.receiver innermost unknown none outside
              rw [← unknown] at returned
              exact returned
          | ok outcome left =>
              rw [ran] at outside
              exact .receiver innermost unknown (some (outcome.toOption.getD .null)) outside

inductive Called (engine : Engine) (procedure : Procedure) (arguments : List Value)
    (environment : Environment) (state : State) : EStateM.Result Interruption State Value → Prop
  | refused {fault : Fault} (refuses : state.run.limiter.enter = .error fault) :
      Called engine procedure arguments environment state (.error (.fault fault) state)
  | stopped {limiter : Limiter} {stop : Interruption} {after : State}
      (enters : state.run.limiter.enter = .ok limiter)
      (ran : engine.runInFrame procedure arguments environment
        { state with frame := state.frame.child, run.limiter := limiter } = .error stop after) :
      Called engine procedure arguments environment state
        (.error stop (Engine.backInFrame state.frame after))
  | returned {limiter : Limiter} {value : Value} {after : State}
      (enters : state.run.limiter.enter = .ok limiter)
      (ran : engine.runInFrame procedure arguments environment
        { state with frame := state.frame.child, run.limiter := limiter } =
          .ok (value, false) after) :
      Called engine procedure arguments environment state
        (.ok value (Engine.backInFrame state.frame after))
  | failed {limiter : Limiter} {value : Value} {after : State}
      (enters : state.run.limiter.enter = .ok limiter)
      (ran : engine.runInFrame procedure arguments environment
        { state with frame := state.frame.child, run.limiter := limiter } =
          .ok (value, true) after) :
      Called engine procedure arguments environment state
        (.ok value
          { Engine.backInFrame state.frame after with frame := state.frame.raisePending })

theorem callProcedure_called (engine : Engine) (procedure : Procedure) (arguments : List Value)
    (environment : Environment) (state : State) :
    Called engine procedure arguments environment state
      (engine.callProcedure procedure arguments environment state) := by
  unfold Engine.callProcedure
  simp only [Running.run_bind, Running.run_get, Engine.enterFrame]
  cases enters : state.run.limiter.enter with
  | error fault => exact .refused enters
  | ok limiter =>
      dsimp only [Eval.afterwards]
      cases ran : engine.runInFrame procedure arguments environment
          { state with frame := state.frame.child, run.limiter := limiter } with
      | error stop after => exact .stopped enters ran
      | ok result after =>
          rcases result with ⟨value, pending⟩
          cases pending with
          | false => exact .returned enters ran
          | true => exact .failed enters ran

theorem callProcedure_evolves {engine : Engine} {procedure : Procedure} {arguments : List Value}
    (evolves : (engine.runInFrame procedure arguments).Evolves .handles) :
    (engine.callProcedure procedure arguments).Evolves role := by
  intro environment state
  have called := callProcedure_called engine procedure arguments environment state
  unfold after
  generalize engine.callProcedure procedure arguments environment state = result at called
  cases called with
  | refused => exact .refl state
  | stopped enters ran => exact .call enters (after_of_error ran ▸ evolves environment _)
  | returned enters ran => exact .call enters (after_of_ok ran ▸ evolves environment _)
  | failed enters ran =>
      have returned : state.Evolves role (Engine.backInFrame state.frame _) :=
        .call enters (after_of_ok ran ▸ evolves environment _)
      exact returned.trans (.raisePending _)

theorem constantValue_evolves {engine : Engine} {expression : Expr}
    (evolves : (engine.nodeValue expression).Evolves role) :
    (engine.constantValue expression).Evolves role := by
  have order : State.IsPreorder (State.Evolves role) := State.Evolves.isPreorder
  refine .observe fun state => .bind order (fun _ _ => .freely rfl) fun found => ?_
  split
  · exact .pure order _
  · exact .bind order evolves fun value => .bind order (fun _ _ => .freely rfl) fun _ =>
      .pure order _

theorem offerLoop_evolves (loop : Statement) : (offerLoop loop).Evolves role := by
  intro environment state
  have merged (result : LoopResult) (certain : List (String × DeclaredType)) (caches : Caches)
      (ticks : UInt64) :
      state.Evolves role
        ((state.mergeResult environment result certain).beside caches state.run.sink ticks) :=
    (State.Evolves.mergeResult state result certain).beside
      (congrArg Aside.sink (State.aside_mergeResult result certain)) caches ticks
  have offered := offerLoop_offered environment state loop
  unfold after
  generalize offerLoop loop environment state = ended at offered
  cases offered with
  | dynamic | refused => exact .refl state
  | reused | completed => exact merged _ _ _ _
  | _ => exact (State.Evolves.refl state).beside rfl _ _

theorem IsComposed.evolves {action : Eval α} (composed : action.IsComposed role) :
    action.Evolves role := by
  have order {role : ErrorRole} : State.IsPreorder (State.Evolves role) :=
    State.Evolves.isPreorder
  induction composed with
  | pure value => exact .pure order value
  | bind _ _ evolvesFirst evolvesNext => exact .bind order evolvesFirst evolvesNext
  | read => exact fun _ state => .refl state
  | observe _ _ evolves => exact .observe evolves
  | step isStep => exact evolves_of_isStep isStep
  | errorStep isStep => exact evolves_of_isErrorStep isStep
  | attempt _ evolves => exact .attempt evolves
  | withBlock object _ evolves => exact withBlock_evolves object evolves
  | receiver _ evolves => exact receiverValue?_evolves evolves
  | call _ evolves => exact callProcedure_evolves evolves
  | constant _ _ evolves => exact constantValue_evolves evolves
  | compileLoop loop => exact .bind order (offerLoop_evolves loop) fun _ => .pure order _

/-! ## The interpreter -/

/-- What a host has the interpreter do in a frame. -/
inductive IsInterpretation : {α : Type} → Eval α → Prop
  | block (statements : List Statement) : IsInterpretation (block statements)
  | statement (statement : Statement) : IsInterpretation (Eval.statement statement)
  | node (expression : Expr) : IsInterpretation (node expression)
  | operand (expression : Expr) : IsInterpretation (operand expression)
  | resolve (variableExpected : Bool) (name : String) :
      IsInterpretation (resolve variableExpected name)
  | call (procedure : Procedure) (arguments : List Value) :
      IsInterpretation (call procedure arguments)
  | handleError : IsInterpretation handleError
  | receiverValue? : IsInterpretation receiverValue?
  | compileLoop (loop : Statement) : IsInterpretation (compileLoop loop)

theorem IsInterpretation.isComposed {action : Eval α} (interpretation : action.IsInterpretation) :
    action.IsComposed .handles := by
  have composed := Engine.within_isComposed Engine.maxNesting
  cases interpretation with
  | block statements => exact composed.runBlock statements (ErrorRole.admits_handles _)
  | statement statement => exact composed.runStatement (ErrorRole.admits_handles _)
  | node expression => exact composed.nodeValue expression
  | operand expression => exact Engine.operandValue_isComposed composed expression
  | resolve variableExpected name => exact composed.resolve variableExpected name
  | call procedure arguments => exact .call (composed.runInFrame procedure arguments)
  | handleError => exact composed.handleError
  | receiverValue? => exact .receiver fun object => composed.node object
  | compileLoop loop => exact .compileLoop loop

end Eval

end MacroSandbox
