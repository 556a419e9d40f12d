import MacroSandbox.Evaluation.Statement

/-! What computations with an environment, a state and early ends do when they are run, one lemma for
each way to make a computation. Evaluations and parts of a run of the machine are such
computations. -/

namespace MacroSandbox

deriving instance DecidableEq for Value

instance decidableEqExcept {ε α : Type} [DecidableEq ε] [DecidableEq α] : DecidableEq (Except ε α)
  | .error left, .error right => decidable_of_iff (left = right) (by rw [Except.error.injEq])
  | .ok left, .ok right => decidable_of_iff (left = right) (by rw [Except.ok.injEq])
  | .error _, .ok _ | .ok _, .error _ => isFalse nofun

namespace Running

variable {ρ ε σ α β : Type}

@[simp] theorem run_pure (value : α) (environment : ρ) (state : σ) :
    (pure value : ReaderT ρ (EStateM ε σ) α) environment state = .ok value state :=
  rfl

@[simp] theorem run_bind (first : ReaderT ρ (EStateM ε σ) α)
    (next : α → ReaderT ρ (EStateM ε σ) β) (environment : ρ) (state : σ) :
    (first >>= next) environment state =
      match first environment state with
      | .ok value after => next value environment after
      | .error stop after => .error stop after :=
  rfl

@[simp] theorem run_map (image : α → β) (part : ReaderT ρ (EStateM ε σ) α) (environment : ρ)
    (state : σ) :
    (image <$> part) environment state =
      match part environment state with
      | .ok value after => .ok (image value) after
      | .error stop after => .error stop after :=
  rfl

@[simp] theorem run_get (environment : ρ) (state : σ) :
    (get : ReaderT ρ (EStateM ε σ) σ) environment state = .ok state state :=
  rfl

@[simp] theorem run_read (environment : ρ) (state : σ) :
    (read : ReaderT ρ (EStateM ε σ) ρ) environment state = .ok environment state :=
  rfl

@[simp] theorem run_modify (change : σ → σ) (environment : ρ) (state : σ) :
    (modify change : ReaderT ρ (EStateM ε σ) PUnit) environment state =
      .ok PUnit.unit (change state) :=
  rfl

@[simp] theorem run_modifyGet (change : σ → α × σ) (environment : ρ) (state : σ) :
    (modifyGet change : ReaderT ρ (EStateM ε σ) α) environment state =
      .ok (change state).1 (change state).2 :=
  rfl

@[simp] theorem run_throw (stop : ε) (environment : ρ) (state : σ) :
    (throw stop : ReaderT ρ (EStateM ε σ) α) environment state = .error stop state :=
  rfl

theorem ok_of_bind {first : ReaderT ρ (EStateM ε σ) α} {next : α → ReaderT ρ (EStateM ε σ) β}
    {environment : ρ} {state after : σ} {result : β}
    (ran : (first >>= next) environment state = .ok result after) :
    ∃ value middle, first environment state = .ok value middle ∧
      next value environment middle = .ok result after := by
  rw [run_bind] at ran
  split at ran
  · exact ⟨_, _, ‹_›, ran⟩
  · cases ran

end Running

/-! ## Evaluations -/

def Interruption.isFinal : Interruption → Bool
  | .fault cause => cause.isFatal
  | .exhausted => true

namespace Eval

variable {α β : Type}

def outcome (action : Eval α) (environment : Environment) (state : State) :
    Except Interruption α :=
  match action environment state with
  | .ok value _ => .ok value
  | .error stop _ => .error stop

def after (action : Eval α) (environment : Environment) (state : State) : State :=
  match action environment state with
  | .ok _ state => state
  | .error _ state => state

def answer (ended : Except Interruption α) (state : State) : EStateM.Result Interruption State α :=
  match ended with
  | .ok value => .ok value state
  | .error stop => .error stop state

section

variable {action : Eval α} {environment : Environment} {state after : State}

theorem outcome_of_answer {ended : Except Interruption α}
    (ran : action environment state = answer ended after) :
    action.outcome environment state = ended := by
  unfold outcome
  rw [ran]
  cases ended <;> rfl

theorem after_of_answer {ended : Except Interruption α}
    (ran : action environment state = answer ended after) :
    action.after environment state = after := by
  unfold Eval.after
  rw [ran]
  cases ended <;> rfl

theorem outcome_of_ok {value : α} (ran : action environment state = .ok value after) :
    action.outcome environment state = .ok value :=
  @outcome_of_answer _ _ _ _ after (.ok value) ran

theorem outcome_of_error {stop : Interruption}
    (ran : action environment state = .error stop after) :
    action.outcome environment state = .error stop :=
  @outcome_of_answer _ _ _ _ after (.error stop) ran

theorem after_of_ok {value : α} (ran : action environment state = .ok value after) :
    action.after environment state = after :=
  @after_of_answer _ _ _ _ _ (.ok value) ran

theorem after_of_error {stop : Interruption} (ran : action environment state = .error stop after) :
    action.after environment state = after :=
  @after_of_answer _ _ _ _ _ (.error stop) ran

theorem eq_ok_of_outcome {value : α} (answers : action.outcome environment state = .ok value) :
    action environment state = .ok value (action.after environment state) := by
  unfold outcome at answers
  unfold Eval.after
  cases ran : action environment state with
  | ok found after =>
      rw [ran] at answers
      cases answers
      rfl
  | error stop after =>
      rw [ran] at answers
      cases answers

theorem ok_of_lift {computed : Except Fault α} {value : α}
    (ran : lift computed environment state = .ok value after) :
    computed = .ok value ∧ after = state := by
  cases computed with
  | error fault => cases ran
  | ok found =>
      cases ran
      exact ⟨rfl, rfl⟩

def endsWith [DecidableEq α] (value : α) (passes : State → Bool) (action : Eval α)
    (environment : Environment) (state : State) : Bool :=
  match action environment state with
  | .ok found after => found == value && passes after
  | .error .. => false

/-- An answer and what is left behind are decided together, so that one run is enough. -/
theorem outcome_and_after_of_endsWith [DecidableEq α] {value : α} (passes : State → Bool)
    (ends : action.endsWith value passes environment state = true) :
    action.outcome environment state = .ok value ∧
      passes (action.after environment state) = true := by
  unfold endsWith at ends
  cases ran : action environment state with
  | error stop after =>
      rw [ran] at ends
      cases ends
  | ok found after =>
      simp only [ran, Bool.and_eq_true, beq_iff_eq] at ends
      obtain ⟨rfl, passed⟩ := ends
      exact ⟨outcome_of_ok ran, by rwa [after_of_ok ran]⟩

end

variable (environment : Environment) (state : State)

theorem outcome_bind (first : Eval α) (next : α → Eval β) :
    (first >>= next).outcome environment state =
      match first environment state with
      | .ok value after => (next value).outcome environment after
      | .error stop _ => .error stop := by
  unfold outcome
  rw [Running.run_bind]
  cases first environment state <;> rfl

theorem after_bind (first : Eval α) (next : α → Eval β) :
    (first >>= next).after environment state =
      match first environment state with
      | .ok value after => (next value).after environment after
      | .error _ after => after := by
  unfold after
  rw [Running.run_bind]
  cases first environment state <;> rfl

def absorbed : Except Interruption α → Except Interruption (Except Fault α)
  | .ok value => .ok (.ok value)
  | .error (.fault fault) => if fault.isFatal then .error (.fault fault) else .ok (.error fault)
  | .error .exhausted => .error .exhausted

theorem absorbed_of_isFinal {stop : Interruption} (isFinal : stop.isFinal = true) :
    absorbed (.error stop : Except Interruption α) = .error stop := by
  cases stop with
  | exhausted => rfl
  | fault fault => exact if_pos isFinal

theorem attempt_eq (action : Eval α) :
    attempt action environment state =
      answer (absorbed (action.outcome environment state)) (action.after environment state) := by
  unfold attempt outcome after
  cases action environment state with
  | ok value after => rfl
  | error stop after =>
      cases stop with
      | exhausted => rfl
      | fault fault => cases isFatal : fault.isFatal <;> simp [absorbed, answer, isFatal]

theorem outcome_attempt (action : Eval α) :
    (attempt action).outcome environment state = absorbed (action.outcome environment state) :=
  outcome_of_answer (attempt_eq environment state action)

theorem after_attempt (action : Eval α) :
    (attempt action).after environment state = action.after environment state :=
  after_of_answer (attempt_eq environment state action)

theorem afterwards_eq (action : Eval α) (change : State → State) :
    afterwards action change environment state =
      answer (action.outcome environment state) (change (action.after environment state)) := by
  unfold afterwards outcome after
  cases action environment state <;> rfl

theorem outcome_afterwards (action : Eval α) (change : State → State) :
    (afterwards action change).outcome environment state = action.outcome environment state :=
  outcome_of_answer (afterwards_eq environment state action change)

theorem after_afterwards (action : Eval α) (change : State → State) :
    (afterwards action change).after environment state =
      change (action.after environment state) :=
  after_of_answer (afterwards_eq environment state action change)

def Leads (relation : State → State → Prop) (action : Eval α) : Prop :=
  ∀ environment state, relation state (action.after environment state)

end Eval

/-! ## What evaluations lead to -/

/-- A relation between states before and after that holds where nothing is done, and holds of what is
done in two parts if it holds of both. -/
structure State.IsPreorder (relation : State → State → Prop) : Prop where
  refl : ∀ state, relation state state
  trans : ∀ {before between after}, relation before between → relation between after →
    relation before after

namespace Eval.Leads

variable {α β : Type} {relation : State → State → Prop}

theorem pure (order : State.IsPreorder relation) (value : α) :
    (Pure.pure value : Eval α).Leads relation :=
  fun _ state => order.refl state

theorem bind (order : State.IsPreorder relation) {first : Eval α} {next : α → Eval β}
    (leadsFirst : first.Leads relation) (leadsNext : ∀ value, (next value).Leads relation) :
    (first >>= next).Leads relation := by
  intro environment state
  have between := leadsFirst environment state
  rw [after_bind]
  unfold after at between
  cases ran : first environment state with
  | ok value middle =>
      rw [ran] at between
      exact order.trans between (leadsNext value environment middle)
  | error stop middle =>
      rw [ran] at between
      exact between

theorem observe {next : State → Eval α} (leads : ∀ state, (next state).Leads relation) :
    (get >>= next).Leads relation :=
  fun environment state => leads state environment state

theorem attempt {action : Eval α} (leads : action.Leads relation) :
    (Eval.attempt action).Leads relation := by
  intro environment state
  rw [after_attempt]
  exact leads environment state

theorem modify {change : State → State} (leads : ∀ state, relation state (change state)) :
    (MonadState.modifyGet fun state => ((), change state) : Eval Unit).Leads relation :=
  fun _ state => leads state

theorem afterwards (order : State.IsPreorder relation) {action : Eval α} {change : State → State}
    (leads : action.Leads relation) (changes : ∀ state, relation state (change state)) :
    (Eval.afterwards action change).Leads relation := by
  intro environment state
  rw [after_afterwards]
  exact order.trans (leads environment state) (changes _)

end Eval.Leads

theorem Engine.runStatement_eq_runLoop {engine : Engine} {environment : Environment}
    {state : State} {loop : Statement} (interprets : environment.policy.compileLoops = false)
    (isLoop : loop.isLoop = true) :
    engine.runStatement loop environment state = engine.runLoop loop environment state := by
  cases loop <;> first
    | cases isLoop; done
    | simp only [Engine.runStatement, Running.run_bind, Running.run_read, interprets]; rfl

/-! ## Limits -/

def State.withTicks (state : State) (ticks : UInt64) : State :=
  { state with run.limiter.ticks := ticks }

namespace Limiter

variable {limiter : Limiter}

theorem check_eq (within : limiter.depth ≤ limiter.maxDepth ∧ limiter.expired = false) :
    limiter.check = .ok () := by
  simp [check, Nat.not_lt.2 within.1, within.2]

theorem expired_of_deadline (untimed : limiter.deadline = none) : limiter.expired = false := by
  rw [expired, untimed]
  rfl

theorem tick_eq (within : limiter.depth ≤ limiter.maxDepth ∧ limiter.deadline = none) :
    limiter.tick = (.ok (), { limiter with ticks := limiter.ticks + 1 }) := by
  simp [tick, expired, Nat.not_lt.2 within.1, within.2]

end Limiter

theorem Eval.check_eq {environment : Environment} {state : State}
    (within : state.run.limiter.depth ≤ state.run.limiter.maxDepth ∧
      state.run.limiter.expired = false) :
    Eval.check environment state = .ok () state := by
  simp only [Eval.check, Limiter.check_eq within]

theorem Eval.tick_eq {environment : Environment} {state : State}
    (within : state.run.limiter.depth ≤ state.run.limiter.maxDepth ∧
      state.run.limiter.deadline = none) :
    Eval.tick environment state =
      .ok () (state.withTicks (state.run.limiter.ticks + 1)) := by
  simp only [Eval.tick, Limiter.tick_eq within]
  rfl

theorem Eval.eq_of_check {environment : Environment} {state after : State}
    (passes : Eval.check environment state = .ok () after) : after = state := by
  simp only [Eval.check] at passes
  split at passes <;> cases passes
  rfl

theorem Eval.eq_of_tick {environment : Environment} {state after : State}
    (passes : Eval.tick environment state = .ok () after) :
    after = state.withTicks (state.run.limiter.ticks + 1) := by
  simp only [Eval.tick] at passes
  split at passes <;> cases passes
  rfl

theorem Eval.ok_of_tick {α : Type} {rest : Eval α} {environment : Environment}
    {state after : State} {value : α}
    (ran : (do Eval.tick; rest : Eval α) environment state = .ok value after) :
    rest environment (state.withTicks (state.run.limiter.ticks + 1)) = .ok value after := by
  obtain ⟨_, ticked, ticks, ran⟩ := Running.ok_of_bind ran
  obtain rfl := Eval.eq_of_tick ticks
  exact ran

/-! ## Reports -/

def State.reporting (state : State) (actions : List Action) : State :=
  { state with
    run.actions := state.run.actions ++ actions.toArray
    run.sink := state.run.sink.map (· ++ actions.toArray) }

theorem Eval.report_eq {value : String} (noNul : '\x00' ∉ value.toList)
    (kind description : String) (environment : Environment) (state : State) :
    Eval.report kind value description environment state =
      .ok () (state.reporting [⟨kind, value, description⟩]) := by
  have kept : String.ofList (value.toList.filter (· != '\x00')) = value := by
    rw [List.filter_eq_self.2, String.ofList_toList]
    intro character member
    rw [bne_iff_ne]
    rintro rfl
    exact noNul member
  unfold Eval.report
  simp only [Running.run_bind, Running.run_read, kept, ite_self]
  rfl

end MacroSandbox
