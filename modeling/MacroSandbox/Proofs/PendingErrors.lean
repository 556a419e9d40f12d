import MacroSandbox.Proofs.Evolution

/-! What runs while an error is pending.

No expression and no statement ends the error of its own frame, and a block stops after a statement
that leaves an error pending. Only the first statement of a block runs without a look at the error. -/

namespace MacroSandbox

/-! ## Pending errors stay -/

def State.KeepsPending (before after : State) : Prop :=
  before.frame.errorState = .pending → after.frame.errorState = .pending

theorem Frame.errorState_raisePending {frame : Frame} (pending : frame.errorState = .pending) :
    frame.raisePending.errorState = .pending := by
  unfold raisePending
  split
  · exact pending
  · rfl

theorem State.Evolves.keepsPending {role : ErrorRole} {before after : State}
    (evolves : before.Evolves role after) (unhandled : role ≠ .handles) :
    before.KeepsPending after := by
  induction evolves with
  | freely same => exact fun pending => (congrArg Account.errorState same).trans pending
  | trans _ _ left right => exact fun pending => right unhandled (left unhandled pending)
  | raisePending state => exact Frame.errorState_raisePending
  | setErrorTarget state target => cases target <;> exact fun pending => pending
  | clearError | takeHandler => exact absurd rfl unhandled
  | withBlock _ _ inside => exact inside unhandled
  | receiver _ _ _ _ outside => exact outside unhandled
  | _ => exact fun pending => pending

/-- No evaluation that does not handle errors ends the error of its frame. -/
theorem Eval.IsComposed.keepsPending {α : Type} {action : Eval α}
    (composed : action.IsComposed .directs) : action.Leads State.KeepsPending :=
  fun environment state => (composed.evolves environment state).keepsPending nofun

/-! ## Blocks while an error is pending -/

namespace Statement

mutual

/-- A statement in which every block ends after its first statement. -/
def truncated : Statement → Statement
  | .branch arms otherwise => .branch (truncatedArms arms) (truncatedBlock otherwise)
  | .forRange index start finish step body =>
      .forRange index start finish step (truncatedBlock body)
  | .forEach index items body => .forEach index items (truncatedBlock body)
  | .whileLoop condition body => .whileLoop condition (truncatedBlock body)
  | .doLoop condition testFirst body => .doLoop condition testFirst (truncatedBlock body)
  | .withBlock object body => .withBlock object (truncatedBlock body)
  | statement => statement

def truncatedArms : List Arm → List Arm
  | [] => []
  | arm :: rest => truncatedArm arm :: truncatedArms rest

def truncatedArm : Arm → Arm
  | .mk condition body => .mk condition (truncatedBlock body)

def truncatedBlock : List Statement → List Statement
  | [] => []
  | statement :: _ => [truncated statement]

end

end Statement

namespace Engine

variable {engine : Engine} {environment : Environment} {state : State}

private theorem stopped {next : Eval Flow}
    (pending : (Eval.after (do
        if ← Eval.mustHandleError then return .continue
        return .continue : Eval Flow) environment state).frame.errorState = .pending) :
    (do
      if ← Eval.mustHandleError then return .continue
      next : Eval Flow) environment state =
    (do
      if ← Eval.mustHandleError then return .continue
      return .continue : Eval Flow) environment state := by
  have isPending : state.frame.errorState = .pending := by
    simpa [Eval.after, Eval.mustHandleError] using pending
  simp [Eval.mustHandleError, isPending]

theorem runBlock_cons_of_pending {statement : Statement} {rest : List Statement}
    (pending : ((engine.runBlock [statement]).after environment state).frame.errorState =
      .pending) :
    engine.runBlock (statement :: rest) environment state =
      engine.runBlock [statement] environment state := by
  unfold Eval.after at pending
  simp only [runBlock, Running.run_bind] at pending ⊢
  cases ticked : Eval.tick environment state with
  | error stop after => rfl
  | ok _ after =>
      simp only [ticked] at pending ⊢
      cases tried : Eval.attempt (engine.runStatement statement) environment after with
      | error stop after => rfl
      | ok outcome after =>
          simp only [tried] at pending ⊢
          rcases outcome with fault | flow
          · cases fault with
            | undefinedVariable name => exact stopped pending
            | _ => exact stopped pending
          · cases flow with
            | «continue» => exact stopped pending
            | _ => rfl

/-- The engine runs, while an error is pending, only the first statements of blocks. -/
def RunsFirstOnly (engine : Engine) (environment : Environment) : Prop :=
  ∀ (statements : List Statement) (state : State), state.frame.errorState = .pending →
    engine.block statements environment state =
      engine.block (Statement.truncatedBlock statements) environment state

section FirstOnly

variable (composed : engine.IsComposed) (firstOnly : engine.RunsFirstOnly environment)

include composed

/-- While an error is pending, a round of a loop is its last one. -/
theorem round_of_pending {body : List Statement} (ownExit : Flow) (again : Eval Flow)
    (pending : state.frame.errorState = .pending) :
    (do
      match ← engine.runBody body ownExit with
      | .stop => return .continue
      | .leave flow => return flow
      | .repeat => again : Eval Flow) environment state =
      match engine.block body environment state with
      | .ok _ after => .ok .continue after
      | .error stop after => .error stop after := by
  have kept := (composed.block body (ErrorRole.admits_directs _)).keepsPending environment state
    pending
  unfold Eval.after at kept
  simp only [runBody, Running.run_bind]
  cases ran : engine.block body environment state with
  | error stop after => rfl
  | ok flow after =>
      rw [ran] at kept
      simp [Eval.mustHandleError, kept]

include firstOnly

theorem round_truncated {body : List Statement} (ownExit : Flow) (again otherAgain : Eval Flow)
    (pending : state.frame.errorState = .pending) :
    (do
      match ← engine.runBody body ownExit with
      | .stop => return .continue
      | .leave flow => return flow
      | .repeat => again : Eval Flow) environment state =
    (do
      match ← engine.runBody (Statement.truncatedBlock body) ownExit with
      | .stop => return .continue
      | .leave flow => return flow
      | .repeat => otherAgain : Eval Flow) environment state := by
  rw [round_of_pending composed ownExit again pending,
    round_of_pending composed ownExit otherAgain pending, firstOnly body state pending]

theorem runRange_truncated (index : String) (finish step : Value) (descending : Bool)
    (body : List Statement) (rounds : Nat) (pending : state.frame.errorState = .pending) :
    engine.runRange index finish step descending body rounds environment state =
      engine.runRange index finish step descending (Statement.truncatedBlock body) rounds
        environment state := by
  cases rounds with
  | zero => rfl
  | succ rounds =>
      simp only [runRange, Eval.variableOrNull, Eval.scope, Running.run_bind, Running.run_get,
        Running.run_read, Running.run_pure]
      split
      · rfl
      · exact round_truncated composed firstOnly .exitFor _ _ pending

theorem runItems_truncated (index : String) (body : List Statement) (rounds : Nat)
    (items : List Value) (pending : state.frame.errorState = .pending) :
    engine.runItems index body rounds items environment state =
      engine.runItems index (Statement.truncatedBlock body) rounds items environment state := by
  cases rounds with
  | zero => rfl
  | succ rounds =>
      cases items with
      | nil => rfl
      | cons item items =>
          have assigned : (state.set environment index item).frame.errorState = .pending := by
            rw [State.set, State.errorState_assign]
            exact pending
          simp only [runItems, Eval.setVariable, Running.run_bind, Running.run_read,
            Running.run_modify]
          exact round_truncated composed firstOnly .exitFor _ _ assigned

theorem runConditional_truncated (condition : Option (LoopTest × Expr)) (testFirst : Bool)
    (body : List Statement) (rounds : Nat) (pending : state.frame.errorState = .pending) :
    engine.runConditional condition testFirst body rounds environment state =
      engine.runConditional condition testFirst (Statement.truncatedBlock body) rounds environment
        state := by
  cases rounds with
  | zero => rfl
  | succ rounds =>
      have kept := (composed.testWhen testFirst condition).keepsPending environment state pending
      unfold Eval.after at kept
      simp only [runConditional, Running.run_bind]
      cases tested : engine.testWhen testFirst condition environment state with
      | error stop after => rfl
      | ok wanted after =>
          rw [tested] at kept
          cases wanted with
          | false => rfl
          | true => exact round_truncated composed firstOnly .exitDo _ _ kept

theorem runBranch_truncated (otherwise : List Statement) (arms : List Arm)
    (pending : state.frame.errorState = .pending) :
    engine.runBranch otherwise arms environment state =
      engine.runBranch (Statement.truncatedBlock otherwise) (Statement.truncatedArms arms)
        environment state := by
  induction arms generalizing state with
  | nil => exact firstOnly otherwise state pending
  | cons arm rest induction =>
      cases arm with
      | mk condition body =>
          have kept := (composed.operand condition).keepsPending environment state pending
          unfold Eval.after at kept
          simp only [Statement.truncatedArms, Statement.truncatedArm, runBranch, Eval.isTruthy,
            Running.run_bind, Running.run_get, Running.run_pure]
          cases ran : engine.operand condition environment state with
          | error stop after => rfl
          | ok value after =>
              rw [ran] at kept
              dsimp only
              split
              · exact firstOnly body after kept
              · exact induction kept

theorem runLoop_truncated (loop : Statement) (pending : state.frame.errorState = .pending) :
    engine.runLoop loop environment state =
      engine.runLoop loop.truncated environment state := by
  cases loop with
  | forRange index start finish step body =>
      -- Whatever starts the loop leaves the error pending, so the rounds see it, too.
      have kept := (composed.startRange index start finish step).keepsPending environment state
        pending
      unfold Eval.after at kept
      simp only [Statement.truncated, runLoop, Running.run_bind, Running.run_read]
      cases started : engine.startRange index start finish step environment state with
      | error stop after => rfl
      | ok range after =>
          rw [started] at kept
          exact runRange_truncated composed firstOnly _ _ _ _ _ _ kept
  | forEach index items body =>
      have kept := (composed.operand items).keepsPending environment state pending
      unfold Eval.after at kept
      simp only [Statement.truncated, runLoop, Running.run_bind, Running.run_read]
      cases ran : engine.operand items environment state with
      | error stop after => rfl
      | ok container after =>
          rw [ran] at kept
          simp only [Running.run_get]
          cases iterationItems after.heap container with
          | error fault => rfl
          | ok values => exact runItems_truncated composed firstOnly _ _ _ _ kept
  | whileLoop condition body => exact runConditional_truncated composed firstOnly _ _ _ _ pending
  | doLoop condition testFirst body =>
      exact runConditional_truncated composed firstOnly _ _ _ _ pending
  | _ => rfl

/-- While an error is pending, a statement does what it does without the later statements of its
blocks. -/
theorem runStatement_truncated (interprets : environment.policy.compileLoops = false)
    (statement : Statement) (pending : state.frame.errorState = .pending) :
    engine.runStatement statement environment state =
      engine.runStatement statement.truncated environment state := by
  cases statement with
  | branch arms otherwise => exact runBranch_truncated composed firstOnly otherwise arms pending
  | forRange | forEach | whileLoop | doLoop =>
      rw [runStatement_eq_runLoop interprets rfl, runStatement_eq_runLoop interprets rfl]
      exact runLoop_truncated composed firstOnly _ pending
  | withBlock object body =>
      simp only [Statement.truncated, runStatement, Eval.pushReceiver, Running.run_bind,
        Running.run_modify, Eval.afterwards]
      rw [firstOnly body _ (by exact pending)]
  | _ => rfl

theorem runBlock_truncated (interprets : environment.policy.compileLoops = false)
    (statements : List Statement) (pending : state.frame.errorState = .pending) :
    engine.runBlock statements environment state =
      engine.runBlock (Statement.truncatedBlock statements) environment state := by
  cases statements with
  | nil => rfl
  | cons statement rest =>
      have kept := (composed.runBlock [statement] (ErrorRole.admits_directs _)).keepsPending
        environment state pending
      have keptByTick := (Eval.IsComposed.step .tick).keepsPending environment state pending
      unfold Eval.after at keptByTick
      rw [runBlock_cons_of_pending kept, Statement.truncatedBlock]
      simp only [runBlock, Running.run_bind]
      cases ticked : Eval.tick environment state with
      | error stop after => rfl
      | ok _ after =>
          rw [ticked] at keptByTick
          have sameAttempt : Eval.attempt (engine.runStatement statement) environment after =
              Eval.attempt (engine.runStatement statement.truncated) environment after := by
            unfold Eval.attempt
            rw [runStatement_truncated composed firstOnly interprets statement keptByTick]
          simp only [sameAttempt]

end FirstOnly

theorem within_runsFirstOnly (interprets : environment.policy.compileLoops = false) (levels : Nat) :
    (within levels).RunsFirstOnly environment := by
  induction levels with
  | zero => exact fun _ _ _ => rfl
  | succ levels induction =>
      exact fun statements state pending =>
        runBlock_truncated (within_isComposed levels) induction interprets statements pending

end Engine

/-- A pending error stops the blocks of its frame, except that the first statement of a block runs
whenever the block is entered: no statement ends the error, none follows one that leaves an error
pending, and while an error is pending the blocks inside of a statement end after their first
statements. -/
theorem Eval.block_stops_at_error (environment : Environment) (state : State)
    (statement : Statement) (rest : List Statement) :
    (state.frame.errorState = .pending →
        ((Eval.block [statement]).after environment state).frame.errorState = .pending) ∧
      (((Eval.block [statement]).after environment state).frame.errorState = .pending →
        Eval.block (statement :: rest) environment state =
          Eval.block [statement] environment state) ∧
      (state.frame.errorState = .pending → environment.policy.compileLoops = false →
        Eval.block [statement] environment state =
          Eval.block [statement.truncated] environment state) := by
  have composed := Engine.within_isComposed Engine.maxNesting
  refine ⟨?_, ?_, ?_⟩
  · exact (composed.runBlock [statement] (ErrorRole.admits_directs _)).keepsPending environment state
  · exact Engine.runBlock_cons_of_pending
  · intro pending interprets
    exact Engine.runBlock_truncated composed
      (Engine.within_runsFirstOnly interprets Engine.maxNesting) interprets [statement] pending

/-! ## An error in a condition -/

private def failingFunction : Procedure :=
  { name := "F"
    kind := .function
    body := [
      .assign (.var "F") (.literal (.boolean true)),
      .call (.call (.member (.var "Err") "Raise") [.literal (.integer 5)])] }

private def guardedAssignment : Statement :=
  .branch [.mk (.call (.var "F") []) [
    .assign (.var "x") (.literal (.integer 1)),
    .assign (.var "x") (.literal (.integer 2))]] []

private def guardedState : State :=
  ((State.start {} none {} {}).setProcedure failingFunction).set {} "x" (.integer 0)

/-- An error that is pending when a statement starts lets its blocks run their first statements. -/
theorem Eval.block_stops_at_earlier_error :
    let environment : Environment := { policy := { compileLoops := false } }
    let state := { guardedState with frame.errorState := .pending }
    Eval.block [guardedAssignment, .assign (.var "x") (.literal (.integer 3))] environment state =
        Eval.block [guardedAssignment.truncated] environment state ∧
      (((Eval.block [guardedAssignment.truncated]).after environment state).scope
        environment).get? "x" = some (.integer 1) := by
  intro environment state
  have stops := Eval.block_stops_at_error environment state guardedAssignment
    [.assign (.var "x") (.literal (.integer 3))]
  refine ⟨?_, by decide +kernel⟩
  rw [stops.2.1 (stops.1 rfl), stops.2.2 rfl rfl]

/-- The error of a condition does not keep the statement from running that the condition guards. -/
theorem Eval.block_runs_after_error_of_condition :
    guardedState.frame.errorMode = .default ∧
      ((Eval.operand (.call (.var "F") [])).after {} guardedState).frame.errorState = .pending ∧
      (guardedState.scope {}).get? "x" = some (.integer 0) ∧
      (((Eval.block [guardedAssignment]).after {} guardedState).scope {}).get? "x" =
        some (.integer 1) := by
  decide +kernel

end MacroSandbox
