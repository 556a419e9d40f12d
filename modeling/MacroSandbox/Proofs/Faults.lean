import MacroSandbox.Arrays
import MacroSandbox.Library.Pure
import MacroSandbox.Operators
import MacroSandbox.Scope

/-! Which faults computations fail with. Those that look at values alone use up no resource of a run:
operators, functions of the library, arrays and names fail with faults that emulated code may handle.
Only the limiter raises fatal faults. -/

namespace MacroSandbox

def IsOrdinary {α : Type} (outcome : Except Fault α) : Prop :=
  ∀ fault, outcome = .error fault → fault.isFatal = false

namespace IsOrdinary

variable {α β : Type}

theorem ok (value : α) : IsOrdinary (.ok value) :=
  fun _ failed => nomatch failed

theorem error_iff {fault : Fault} :
    IsOrdinary (.error fault : Except Fault α) ↔ fault.isFatal = false := by
  refine ⟨fun ordinary => ordinary fault rfl, ?_⟩
  intro ordinary other same
  cases same
  exact ordinary

theorem runtime (number : Int) (message : String) :
    IsOrdinary (.error (.runtime number message) : Except Fault α) :=
  error_iff.2 rfl

theorem map {outcome : Except Fault α} (ordinary : IsOrdinary outcome) (image : α → β) :
    IsOrdinary (outcome.map image) := by
  cases outcome with
  | ok value => exact ok _
  | error fault => exact error_iff.2 (error_iff.1 ordinary)

theorem error_of_eq {outcome : Except Fault α} {fault : Fault} (ordinary : IsOrdinary outcome)
    (failed : outcome = .error fault) : IsOrdinary (.error fault : Except Fault β) :=
  error_iff.2 (ordinary fault failed)

end IsOrdinary

/-! ## Operators -/

theorem isOrdinary_joinTexts (left right : String) : IsOrdinary (joinTexts left right) := by
  unfold joinTexts
  dsimp only
  split
  · exact .runtime _ _
  · exact .ok _

theorem isOrdinary_wholeDivision (compute : Int64 → Int64 → Int64) (left right : Value) :
    IsOrdinary (wholeDivision compute left right) := by
  unfold wholeDivision
  dsimp only
  split
  · exact .runtime _ _
  · exact .ok _

theorem BinaryOperator.isOrdinary_apply (heap : Heap) (operator : BinaryOperator)
    (left right : Value) : IsOrdinary (operator.apply heap left right) := by
  cases operator with
  | add =>
      dsimp only [apply]
      split
      · exact isOrdinary_joinTexts _ _
      · split
        · exact .ok _
        · exact .runtime _ _
  | divide =>
      dsimp only [apply]
      split
      · exact .runtime _ _
      · exact .ok _
  | integerDivide | modulo => exact isOrdinary_wholeDivision _ left right
  | concatenate => exact isOrdinary_joinTexts _ _
  | _ => exact .ok _

/-! ## Arrays -/

theorem isOrdinary_elementIndex (items : Array Value) (index : Value) :
    IsOrdinary (elementIndex items index) := by
  unfold elementIndex
  dsimp only
  split
  · exact .ok _
  · exact .runtime _ _

theorem isOrdinary_indexValue (heap : Heap) (target : Value) (indices : List Value) :
    IsOrdinary (indexValue heap target indices) := by
  induction indices generalizing target with
  | nil =>
      rw [indexValue]
      exact .ok target
  | cons index rest induction =>
      cases target with
      | list place =>
          rw [indexValue]
          split
          · exact induction _
          · rename_i failed
            exact (isOrdinary_elementIndex _ _).error_of_eq failed
      | map place => exact .ok _
      | _ => exact .runtime _ _

theorem isOrdinary_elementSlot (heap : Heap) (target : Value) (indices : List Value) :
    IsOrdinary (elementSlot heap target indices) := by
  fun_induction elementSlot heap target indices with
  | case1 | case5 => exact .runtime _ _
  | case2 => exact (isOrdinary_elementIndex _ _).map _
  | case3 _ _ _ _ _ _ induction => exact induction
  | case4 place index next rest fault failed =>
      exact (isOrdinary_elementIndex _ _).error_of_eq failed

theorem isOrdinary_growingIndex (index : Value) : IsOrdinary (growingIndex index) := by
  unfold growingIndex
  dsimp only
  split
  · exact .ok _
  · exact .runtime _ _

theorem isOrdinary_growingSlot (heap : Heap) (target : Value) (indices : List Value) :
    IsOrdinary (growingSlot heap target indices) := by
  unfold growingSlot
  split
  · exact .ok _
  · split
    · exact (isOrdinary_growingIndex _).map _
    · split
      · exact (isOrdinary_growingIndex _).map _
      · rename_i failed
        exact (isOrdinary_growingIndex _).error_of_eq failed
    · exact .runtime _ _
  · exact .runtime _ _

theorem isOrdinary_iterationItems (heap : Heap) (container : Value) :
    IsOrdinary (iterationItems heap container) := by
  cases container with
  | list | map | null | unresolved => exact .ok _
  | _ => exact .runtime _ _

theorem isOrdinary_newArray (heap : Heap) (dimensions : List Int64) (type : Option DeclaredType) :
    IsOrdinary (newArray heap dimensions type).1 := by
  unfold newArray
  dsimp only
  split
  · split
    · exact .ok _
    · exact .runtime _ _
  · exact .runtime _ _

/-! ## The library -/

namespace TextFunction

theorem isOrdinary_middle (text : String) (start : Int) (count : Option Int) :
    IsOrdinary (middle text start count) := by
  unfold middle
  split
  · exact .runtime _ _
  · exact .ok _

theorem isOrdinary_overwrite (current : String) (start : Int) (count : Option Int)
    (replacement : String) : IsOrdinary (overwrite current start count replacement) := by
  unfold overwrite
  split
  · exact .runtime _ _
  · dsimp only
    split
    · exact .runtime _ _
    · exact .ok _

end TextFunction

namespace ScalarRoutine

theorem isOrdinary_repeatCharacter (character : Char) (count : Int64) :
    IsOrdinary (repeatCharacter character count) := by
  unfold repeatCharacter
  split
  · exact .ok _
  · exact .runtime _ _

theorem isOrdinary_lastIndex (heap : Heap) (value : Value) : IsOrdinary (lastIndex heap value) := by
  cases value with
  | list | text => exact .ok _
  | _ => exact .runtime _ _

theorem isOrdinary_compute (heap : Heap) (arguments : List Value) (routine : ScalarRoutine) :
    IsOrdinary (routine.compute heap arguments) := by
  cases routine with
  | character | toByte =>
      dsimp only [compute]
      split
      · exact .ok _
      · exact .runtime _ _
  | characterCode =>
      dsimp only [compute]
      split
      · exact .runtime _ _
      · exact .ok _
  | middle => exact (TextFunction.isOrdinary_middle _ _ _).map _
  | spaces | repeated => exact isOrdinary_repeatCharacter _ _
  | upperBound => exact isOrdinary_lastIndex _ _
  | _ => exact .ok _

end ScalarRoutine

theorem PureRoutine.isOrdinary_apply (routine : PureRoutine) (arguments : List Value)
    (heap : Heap) : IsOrdinary (routine.apply arguments heap).1 := by
  cases routine with
  | split | array => exact .ok _
  | scalar routine => exact routine.isOrdinary_compute heap arguments

theorem LibraryFunction.isOrdinary_checkArity (function : LibraryFunction) (count : Nat) :
    IsOrdinary (function.checkArity count) := by
  unfold checkArity
  split
  · exact .ok _
  · exact .runtime _ _

/-! ## Names -/

namespace Scope

theorem isOrdinary_of_lookupWithin {scope : Scope} {globalsOnly : Bool} {steps : Nat}
    {name : String} {outcome : Except Fault Found}
    (found : scope.lookupWithin globalsOnly steps name = some outcome) : IsOrdinary outcome := by
  induction steps generalizing name with
  | zero => cases found
  | succ steps induction =>
      rw [lookupWithin] at found
      -- the member that the name may stand for, then the name itself, then the name without a `$`
      split at found
      · cases found
      · cases found
        exact .ok _
      · split at found
        · cases found
          exact .ok _
        · split at found
          · exact induction found
          · cases found
            exact IsOrdinary.error_iff.2 rfl

theorem isOrdinary_get (scope : Scope) (name : String) : IsOrdinary (scope.get name) := by
  unfold get lookup
  refine IsOrdinary.map ?_ _
  show IsOrdinary ((scope.lookupWithin false (steps (Text.trim name)) (Text.trim name)).getD
    (.error (.undefinedVariable (Text.trim name))))
  cases found : scope.lookupWithin false (steps (Text.trim name)) (Text.trim name) with
  | none => exact IsOrdinary.error_iff.2 rfl
  | some outcome => exact isOrdinary_of_lookupWithin found

end Scope

/-! ## Limits -/

/-- The fault says that a resource of a run is used up. A run whose calls were nested within the limit
so far has made the first call beyond it. -/
def Fault.Exhausts (limiter : Limiter) (fault : Fault) : Prop :=
  fault.isFatal = true ∧ (limiter.depth ≤ limiter.maxDepth →
    ∀ depth, fault = .recursionLimit depth → depth = limiter.maxDepth + 1)

namespace Limiter

variable {limiter entered : Limiter} {fault : Fault}

theorem exhausts_timeout : Fault.timeout.Exhausts limiter :=
  ⟨rfl, fun _ _ impossible => nomatch impossible⟩

theorem exhausts_of_lt (beyond : limiter.maxDepth < limiter.depth) (depth : Nat) :
    (Fault.recursionLimit depth).Exhausts limiter :=
  ⟨rfl, fun within => absurd within (Nat.not_le.2 beyond)⟩

theorem exhausts_of_check (fails : limiter.check = .error fault) : fault.Exhausts limiter := by
  unfold check at fails
  split at fails
  · cases fails
    exact exhausts_of_lt ‹_› _
  · split at fails
    · cases fails
      exact exhausts_timeout
    · cases fails

theorem exhausts_of_tick (fails : limiter.tick.1 = .error fault) : fault.Exhausts limiter := by
  unfold tick at fails
  dsimp only at fails
  split at fails
  · cases fails
    exact exhausts_of_lt ‹_› _
  · split at fails
    · cases fails
      exact exhausts_timeout
    · cases fails

theorem exhausts_next (full : limiter.maxDepth ≤ limiter.depth) :
    (Fault.recursionLimit (limiter.depth + 1)).Exhausts limiter := by
  refine ⟨rfl, fun within depth same => ?_⟩
  cases same
  omega

theorem exhausts_of_enter (fails : limiter.enter = .error fault) : fault.Exhausts limiter := by
  unfold enter at fails
  dsimp only at fails
  split at fails
  · cases fails
    exact exhausts_next (by omega)
  · cases fails

theorem eq_of_enter (enters : limiter.enter = .ok entered) :
    entered = { limiter with depth := limiter.depth + 1 } ∧ limiter.depth < limiter.maxDepth := by
  unfold enter at enters
  dsimp only at enters
  split at enters
  · cases enters
  · cases enters
    exact ⟨rfl, by omega⟩

theorem exhausts_of_entered (enters : limiter.enter = .ok entered)
    (exhausts : fault.Exhausts entered) : fault.Exhausts limiter := by
  obtain ⟨rfl, within⟩ := eq_of_enter enters
  exact ⟨exhausts.1, fun _ => exhausts.2 within⟩

end Limiter

end MacroSandbox
