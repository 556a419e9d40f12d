import MacroSandbox.Proofs.Evolution

/-! Frames that skip the statements that fail.

While the errors of a frame are skipped, none becomes pending: not those of its statements, and not
those that the procedures it calls leave unhandled. So a block runs through, unless a statement says
something else about errors. -/

namespace MacroSandbox

/-! ## Errors are skipped -/

structure State.SkipsErrors (state : State) : Prop where
  resumesNext : state.frame.errorMode = .resumeNext
  notPending : state.frame.errorState ≠ .pending

namespace State

variable {before after : State}

/-- Whatever raises errors only, in a frame that skips them, leaves the errors of the frame alone. -/
theorem Evolves.sameErrors {role : ErrorRole} (evolves : before.Evolves role after)
    (raises : role = .raises) (resumesNext : before.frame.errorMode = .resumeNext) :
    after.frame.errorMode = .resumeNext ∧ after.frame.errorState = before.frame.errorState := by
  induction evolves with
  | freely same =>
      exact ⟨(congrArg Account.errorMode same).trans resumesNext, congrArg Account.errorState same⟩
  | trans _ _ left right =>
      have first := left raises resumesNext
      have second := right raises first.1
      exact ⟨second.1, second.2.trans first.2⟩
  | raisePending state =>
      have skipped : state.frame.raisePending = state.frame := by
        simp [Frame.raisePending, resumesNext]
      rw [skipped]
      exact ⟨resumesNext, rfl⟩
  | setErrorTarget _ _ directs => exact absurd raises directs
  | clearError | takeHandler => cases raises
  | withBlock _ _ inside => exact inside raises resumesNext
  | receiver _ _ _ _ outside => exact outside raises resumesNext
  | scan | report | writeMemory | countError | call => exact ⟨resumesNext, rfl⟩

theorem Evolves.skipsErrors (evolves : before.Evolves .raises after)
    (skips : before.SkipsErrors) : after.SkipsErrors := by
  have same := evolves.sameErrors rfl skips.resumesNext
  exact ⟨same.1, same.2 ▸ skips.notPending⟩

end State

/-! ## Blocks that run through -/

namespace Engine

/-- Runs statements in order, whatever errors they leave. Only a statement that leaves the block and
what ends the whole emulation end it. -/
def runThrough (engine : Engine) : List Statement → Eval Flow
  | [] => return .continue
  | statement :: rest => do
      Eval.tick
      match ← Eval.attempt (engine.runStatement statement) with
      | .ok .continue | .error (.undefinedVariable _) => engine.runThrough rest
      | .ok flow => return flow
      | .error fault =>
          Eval.setError fault
          engine.runThrough rest

variable {engine : Engine} {environment : Environment} {state : State}

/-- A block that says nothing about errors runs through in a frame that skips them. -/
theorem runBlock_eq_runThrough (composed : engine.IsComposed) {statements : List Statement}
    (admits : ErrorRole.raises.Admits (Statement.nodesOfList statements))
    (skips : state.SkipsErrors) :
    engine.runBlock statements environment state =
      engine.runThrough statements environment state := by
  induction statements generalizing state with
  | nil => rfl
  | cons statement rest induction =>
      have kept {α : Type} {action : Eval α} {before after : State} {value : α}
          (raises : action.IsComposed .raises) (skips : before.SkipsErrors)
          (ran : action environment before = .ok value after) : after.SkipsErrors :=
        (Eval.after_of_ok ran ▸ raises.evolves environment before).skipsErrors skips
      -- As long as errors are skipped none is pending, so the rest of the block is run.
      have goesOn {state : State} (skips : state.SkipsErrors) :
          (do
            if ← Eval.mustHandleError then return .continue
            engine.runBlock rest : Eval Flow) environment state =
            engine.runThrough rest environment state := by
        simp only [Eval.mustHandleError, Running.run_bind, Running.run_get, Running.run_pure,
          beq_iff_eq, skips.notPending, if_false]
        exact induction admits.tail skips
      rw [runBlock, runThrough, Running.run_bind, Running.run_bind]
      cases ticked : Eval.tick environment state with
      | error stop after => rfl
      | ok _ ready =>
          have skipsThen := kept (.step .tick) skips ticked
          dsimp only
          rw [Running.run_bind, Running.run_bind]
          cases attempted : Eval.attempt (engine.runStatement statement) environment ready with
          | error stop after => rfl
          | ok outcome after =>
              have skipsAfter :=
                kept (.attempt (composed.runStatement admits.head)) skipsThen attempted
              have skipsNoted (fault : Fault) :
                  ((Eval.setError fault).after environment after).SkipsErrors :=
                ((Eval.IsComposed.step (.setError fault)).evolves environment after).skipsErrors
                  skipsAfter
              cases outcome with
              | ok flow =>
                  cases flow with
                  | «continue» => exact goesOn skipsAfter
                  | _ => rfl
              | error fault =>
                  cases fault with
                  | undefinedVariable name => exact goesOn skipsAfter
                  | _ => exact goesOn (skipsNoted _)

end Engine

/-- A block that says nothing about errors, in a frame that skips them, leaves no error pending,
whatever its statements and the procedures that they call raise: the frame skips errors afterwards as
it did before, and the statements are attempted in order until one leaves the block or a resource is
used up. -/
theorem Eval.block_skips_errors (environment : Environment) (state : State)
    (statements : List Statement)
    (silent : ∀ target, Node.statement (.onError target) ∉ Statement.nodesOfList statements)
    (resumesNext : state.frame.errorMode = .resumeNext)
    (notPending : state.frame.errorState ≠ .pending) :
    ((Eval.block statements).after environment state).frame.errorMode = .resumeNext ∧
      ((Eval.block statements).after environment state).frame.errorState ≠ .pending ∧
      Eval.block statements environment state =
        Engine.interpreter.runThrough statements environment state := by
  have composed := Engine.within_isComposed Engine.maxNesting
  have admits : ErrorRole.raises.Admits (Statement.nodesOfList statements) := fun _ => silent
  have skips : state.SkipsErrors := ⟨resumesNext, notPending⟩
  have skipsAfter :=
    ((composed.runBlock statements admits).evolves environment state).skipsErrors skips
  exact ⟨skipsAfter.resumesNext, skipsAfter.notPending,
    Engine.runBlock_eq_runThrough composed admits skips⟩

private def raiseStatement : Statement :=
  .call (.call (.member (.var "Err") "Raise") [.literal (.integer 5)])

private def failingProcedure : Procedure :=
  { name := "F"
    kind := .function
    body := [.assign (.var "F") (.literal (.integer 1)), raiseStatement] }

private def failingBlock : List Statement :=
  [.assign (.var "x") (.call (.var "F") []),
    .branch [.mk (.literal (.boolean true)) [raiseStatement, .assign (.var "y") (.var "x")]] [],
    raiseStatement,
    .assign (.var "z") (.binary .add (.var "x") (.var "y"))]

private def skippingState : State :=
  let state := (State.start {} none {} {}).setProcedure failingProcedure
  { state with frame.errorMode := .resumeNext }

/-- A block in which three errors are raised runs to its last statement. -/
theorem Eval.block_skips_errors_everywhere :
    (∀ target, Node.statement (.onError target) ∉ Statement.nodesOfList failingBlock) ∧
      skippingState.frame.errorMode = .resumeNext ∧
      skippingState.frame.errorState ≠ .pending ∧
      ((Eval.block failingBlock).after {} skippingState).frame.errorMode = .resumeNext ∧
      ((Eval.block failingBlock).after {} skippingState).frame.errorState ≠ .pending ∧
      (Engine.interpreter.runThrough failingBlock {} skippingState =
        Eval.block failingBlock {} skippingState) ∧
      ((Eval.block failingBlock).after {} skippingState).run.errorCount = 3 ∧
      (((Eval.block failingBlock).after {} skippingState).scope {}).get? "z" =
        some (.integer 2) := by
  have silent : ∀ target, Node.statement (.onError target) ∉ Statement.nodesOfList failingBlock := by
    simp [failingBlock, raiseStatement, Statement.nodesOfList, Node.nodes_eq, Node.children,
      Node.ofExpr, Node.ofStatement, Arm.nodes]
  have notPending : skippingState.frame.errorState ≠ .pending := by decide
  have skips := Eval.block_skips_errors {} skippingState failingBlock silent rfl notPending
  exact ⟨silent, rfl, notPending, skips.1, skips.2.1, skips.2.2.symm, by decide +kernel⟩

end MacroSandbox
