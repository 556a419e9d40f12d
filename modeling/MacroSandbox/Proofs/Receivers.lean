import Mathlib.Data.List.Forall2
import MacroSandbox.Proofs.Evolution

/-! `With` blocks are left as they were entered.

The object of the innermost block is evaluated outside of it, where anything may happen, and the bodies
of blocks may end anywhere. Afterwards the same blocks are entered as before; only values of their
objects may have become known. -/

namespace MacroSandbox

/-! ## Blocks that are entered -/

/-- The same block, whose object may have been evaluated meanwhile. -/
structure Receiver.Keeps (before after : Receiver) : Prop where
  object : after.object = before.object
  name : after.name = before.name
  value : ∀ value, before.value = some value → after.value = some value

namespace Receiver.Keeps

theorem refl (receiver : Receiver) : receiver.Keeps receiver :=
  ⟨rfl, rfl, fun _ known => known⟩

theorem trans {before between after : Receiver} (left : before.Keeps between)
    (right : between.Keeps after) : before.Keeps after :=
  ⟨right.object.trans left.object, right.name.trans left.name,
    fun value known => right.value value (left.value value known)⟩

theorem of_unknown {receiver : Receiver} (unknown : receiver.value = none) (value : Option Value) :
    receiver.Keeps { receiver with value } :=
  ⟨rfl, rfl, fun _ known => nomatch unknown.symm.trans known⟩

end Receiver.Keeps

/-- The same blocks are entered, in the same order. -/
def State.KeepsReceivers (before after : State) : Prop :=
  List.Forall₂ Receiver.Keeps before.frame.receivers after.frame.receivers

namespace State

variable {before between after : State}

theorem KeepsReceivers.of_same (same : after.frame.receivers = before.frame.receivers) :
    before.KeepsReceivers after := by
  unfold KeepsReceivers
  rw [same, List.forall₂_same]
  exact fun receiver _ => .refl receiver

theorem KeepsReceivers.trans (left : before.KeepsReceivers between)
    (right : between.KeepsReceivers after) : before.KeepsReceivers after := by
  unfold KeepsReceivers at *
  generalize before.frame.receivers = first, between.frame.receivers = second,
    after.frame.receivers = third at left right ⊢
  induction left generalizing third with
  | nil => exact right
  | cons keeps _ induction =>
      cases right with
      | cons keepsToo rest => exact .cons (keeps.trans keepsToo) (induction _ rest)

theorem KeepsReceivers.withoutReceiver {receiver : Receiver}
    (inside : KeepsReceivers
      { before with frame.receivers := receiver :: before.frame.receivers } after) :
    before.KeepsReceivers (Eval.withoutReceiver after) := by
  obtain ⟨later, others, -, kept, sameList⟩ := List.forall₂_cons_left_iff.1 inside
  show List.Forall₂ Receiver.Keeps before.frame.receivers after.frame.receivers.tail
  rw [sameList]
  exact kept

theorem KeepsReceivers.putBack {receiver : Receiver} {outer : List Receiver}
    (innermost : before.frame.receivers = receiver :: outer) (unknown : receiver.value = none)
    (value : Option Value) (outside : (Eval.withoutReceiver before).KeepsReceivers after) :
    before.KeepsReceivers (Engine.putBack { receiver with value } after) := by
  unfold KeepsReceivers Eval.withoutReceiver at outside
  rw [innermost] at outside
  unfold KeepsReceivers
  rw [innermost]
  exact .cons (.of_unknown unknown value) outside

theorem Evolves.keepsReceivers {role : ErrorRole} (evolves : before.Evolves role after) :
    before.KeepsReceivers after := by
  induction evolves with
  | freely same => exact .of_same (congrArg Account.receivers same)
  | trans _ _ left right => exact left.trans right
  | raisePending state =>
      refine .of_same ?_
      unfold Frame.raisePending
      split <;> rfl
  | setErrorTarget state target => cases target <;> exact .of_same rfl
  | withBlock receiver _ inside => exact inside.withoutReceiver
  | receiver innermost unknown value _ outside => exact outside.putBack innermost unknown value
  | _ => exact .of_same rfl

end State

/-! ## The interpreter -/

/-- `With` blocks are balanced: whatever is evaluated and however it ends, the same blocks are entered
afterwards as before, in the same order and with the same objects and names. The value of an object
stays as it was unless it was not known before. -/
theorem Eval.balances_receivers {α : Type} {action : Eval α}
    (interpretation : action.IsInterpretation) (environment : Environment) (state : State) :
    List.Forall₂ Receiver.Keeps state.frame.receivers
      (action.after environment state).frame.receivers :=
  (interpretation.isComposed.evolves environment state).keepsReceivers

private def leavingBlock : List Statement :=
  [.assign (.var "x") .receiver,
    .withBlock (.var "inner") [.assign (.var "y") .receiver, .exit .sub]]

private def enteredState : State :=
  let state := (State.start {} none {} {}).set {} "outer" (.integer 7)
  { state with frame.receivers := [{ object := .var "outer", name := "outer" }] }

/-- The inner block is left by an exit from the procedure; the outer one is still entered, and the
value of its object is known by then. -/
theorem Eval.balances_receivers_at_exit :
    (Eval.block leavingBlock).IsInterpretation ∧
      List.Forall₂ Receiver.Keeps enteredState.frame.receivers
        ((Eval.block leavingBlock).after {} enteredState).frame.receivers ∧
      ((Eval.block leavingBlock).outcome {} enteredState,
          ((Eval.block leavingBlock).after {} enteredState).frame.receivers.map (·.value)) =
        (.ok .exitSub, [some (.integer 7)]) :=
  ⟨.block leavingBlock, Eval.balances_receivers (.block leavingBlock) {} enteredState,
    by decide +kernel⟩

end MacroSandbox
