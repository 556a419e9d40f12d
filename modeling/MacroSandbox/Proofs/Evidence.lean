import MacroSandbox.Proofs.Evolution

/-! Collected evidence.

Actions, indicators, memory and the number of errors are shared by all frames of a run. Evaluations only
add to them: nothing that was recorded is taken back, in whatever frame it happened and however the
evaluation ends. -/

namespace MacroSandbox

/-! ## Indicators -/

namespace Indicators

theorem mem_recordEncoded {seen : Std.TreeSet String} {indicator : String}
    (recorded : indicator ∈ seen) (piece : String) : indicator ∈ recordEncoded seen piece := by
  unfold recordEncoded
  split
  · exact Std.TreeSet.mem_insert.2 (.inr recorded)
  · exact recorded

theorem mem_scanAddresses {seen : Std.TreeSet String} {indicator : String}
    (recorded : indicator ∈ seen) (text : String) : indicator ∈ scanAddresses seen text :=
  List.foldlRecOn (motive := fun seen => indicator ∈ seen) _ _ recorded
    fun _ recorded _ _ => Std.TreeSet.mem_insert.2 (.inr recorded)

theorem mem_scanEncoded {seen : Std.TreeSet String} {indicator : String}
    (recorded : indicator ∈ seen) (text : String) : indicator ∈ scanEncoded seen text := by
  unfold scanEncoded
  split
  · exact recorded
  · exact List.foldlRecOn (motive := fun seen => indicator ∈ seen) _ _ recorded
      fun _ recorded piece _ => mem_recordEncoded recorded piece

theorem mem_scan {indicators : Indicators} {indicator : String}
    (recorded : indicator ∈ indicators.toList) (text : String) :
    indicator ∈ (indicators.scan text).toList := by
  simp only [toList, List.mem_append, Std.TreeSet.mem_toList] at recorded ⊢
  exact recorded.imp (mem_scanAddresses · text) (mem_scanEncoded · text)

end Indicators

/-! ## Evidence of a run -/

/-- Evidence was added: a listener has received the new actions, and whatever was recorded before is
still recorded. -/
structure Run.Collects (before after : Run) : Prop where
  actions : ∃ added, after.actions = before.actions ++ added ∧
    after.sink = before.sink.map (· ++ added)
  indicators : ∀ indicator ∈ before.indicators.toList, indicator ∈ after.indicators.toList
  memory : ∀ address, (before.memory.byte? address).isSome = true →
    (after.memory.byte? address).isSome = true
  errors : before.errorCount ≤ after.errorCount

namespace Run.Collects

theorem refl (run : Run) : run.Collects run where
  actions := ⟨#[], by simp⟩
  indicators := fun _ recorded => recorded
  memory := fun _ written => written
  errors := Nat.le_refl _

theorem trans {before between after : Run} (left : before.Collects between)
    (right : between.Collects after) : before.Collects after where
  actions := by
    obtain ⟨first, firstActions, firstSink⟩ := left.actions
    obtain ⟨second, secondActions, secondSink⟩ := right.actions
    refine ⟨first ++ second, ?_, ?_⟩
    · rw [secondActions, firstActions, Array.append_assoc]
    · rw [secondSink, firstSink, Option.map_map]
      simp only [Function.comp_def, Array.append_assoc]
  indicators := fun indicator recorded => right.indicators _ (left.indicators _ recorded)
  memory := fun address written => right.memory _ (left.memory _ written)
  errors := Nat.le_trans left.errors right.errors

theorem of_account {before after : State} (same : after.account = before.account) :
    before.run.Collects after.run := by
  have sameActions : after.run.actions = before.run.actions := congrArg Account.actions same
  have sameSink : after.run.sink = before.run.sink := congrArg Account.sink same
  have sameIndicators : after.run.indicators = before.run.indicators :=
    congrArg Account.indicators same
  have sameMemory : after.run.memory = before.run.memory := congrArg Account.memory same
  refine ⟨⟨#[], ?_, ?_⟩, ?_, ?_, Nat.le_of_eq (congrArg Account.errorCount same).symm⟩
  · rw [sameActions, Array.append_empty]
  · simp [sameSink]
  · rw [sameIndicators]
    exact fun _ recorded => recorded
  · rw [sameMemory]
    exact fun _ written => written

theorem report (run : Run) (action : Action) :
    run.Collects
      { run with
        actions := run.actions.push action
        sink := run.sink.map (·.push action) } :=
  { refl run with actions := ⟨#[action], by simp⟩ }

theorem writeMemory (run : Run) (moves : Array Move) :
    run.Collects { run with memory.moves := run.memory.moves ++ moves } := by
  refine { refl run with memory := fun address written => ?_ }
  show ((run.memory.merge { moves }).byte? address).isSome = true
  rw [Memory.byte?_merge, Option.isSome_or, written, Bool.or_true]

end Run.Collects

theorem State.Evolves.collects {role : ErrorRole} {before after : State}
    (evolves : before.Evolves role after) : before.run.Collects after.run := by
  induction evolves with
  | freely same => exact .of_account same
  | trans _ _ left right => exact left.trans right
  | scan state content =>
      exact { Run.Collects.refl state.run with
        indicators := fun _ recorded => Indicators.mem_scan recorded content }
  | report state action _ => exact .report state.run action
  | writeMemory state moves => exact .writeMemory state.run moves
  | countError state error =>
      exact { Run.Collects.refl state.run with errors := Nat.le_succ _ }
  | withBlock _ _ inside => exact inside
  | receiver _ _ _ _ outside => exact outside
  | call _ _ inside => exact { inside with }
  | _ => exact .refl _

/-! ## The interpreter -/

/-- Evidence is only ever added. Whatever is evaluated in a frame of a run and however it ends, the
actions that were reported before come first among those reported by then, a listener has received
exactly the new ones, in their order, every indicator that was recorded and every address of the memory
that was written to still is, and no error is forgotten in their number. -/
theorem Eval.collects_evidence {α : Type} {action : Eval α}
    (interpretation : action.IsInterpretation) (environment : Environment) (state : State) :
    state.run.Collects (action.after environment state).run :=
  (interpretation.isComposed.evolves environment state).collects

private def suspiciousProcedure : Procedure :=
  { name := "P"
    kind := .sub
    body := [
      .call (.call (.var "Shell") [.literal (.text "calc")]),
      .assign (.var "x") (.literal (.text "http://b")),
      .call (.call (.var "RtlMoveMemory")
        [.literal (.integer 1), .literal (.text "b"), .literal (.integer 1)]),
      .call (.call (.member (.var "Err") "Raise") [.literal (.integer 5)])] }

private def suspectedState : State :=
  let state := (State.start {} (some #[]) {} {}).set {} "x" (.text "http://a")
  { state with
    run.actions := #[⟨"Execute Command", "ping", "Shell function"⟩]
    run.memory.moves := #[⟨0, ⟨#[0x90]⟩⟩]
    run.errorCount := 2 }

private def collected (run : Run) : Option (Array Action) × List String × Option UInt8 × Nat :=
  (run.sink, run.indicators.toList, run.memory.byte? 1, run.errorCount)

/-- The call of a procedure that fails adds its action, its indicator, its byte and its error. -/
theorem Eval.collects_evidence_of_call :
    (Eval.call suspiciousProcedure []).IsInterpretation ∧
      suspectedState.run.Collects
        ((Eval.call suspiciousProcedure []).after {} suspectedState).run ∧
      collected suspectedState.run = (some #[], ["http://a"], none, 2) ∧
      collected ((Eval.call suspiciousProcedure []).after {} suspectedState).run =
        (some #[⟨"Execute Command", "calc", "Shell function"⟩], ["http://a", "http://b"],
          some 0x62, 3) :=
  ⟨.call _ _, Eval.collects_evidence (.call suspiciousProcedure []) {} suspectedState,
    by decide +kernel, by decide +kernel⟩

end MacroSandbox
