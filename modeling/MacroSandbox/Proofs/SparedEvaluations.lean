import MacroSandbox.Evaluation.Interpreter
import MacroSandbox.Proofs.LoopCache
import MacroSandbox.Proofs.ReservedPlaces

/-! Evaluations that spare a reserve.

Such an evaluation ends in a state that does not refer to the reserve if it starts in one, and its value
does not refer to it either. There is one lemma for each way to put evaluations together, and one for
each change that the interpreter makes to its state; loops that are compiled are included. -/

namespace MacroSandbox

/-! ## Ways to put evaluations together -/

/-- An evaluation ended in a state that spares a reserve, with a value that satisfies `Answers` if there
is one. -/
def Eval.EndsSparing {α : Type} (base : Reserve) (Answers : α → Prop) :
    EStateM.Result Interruption State α → Prop
  | .ok value after => after.Spares base ∧ Answers value
  | .error _ after => after.Spares base

/-- An evaluation spares a reserve however it ends, and its value satisfies `Answers`. -/
def Eval.Spares {α : Type} (base : Reserve) (environment : Environment) (Answers : α → Prop)
    (action : Eval α) : Prop :=
  ∀ state, state.Spares base → Eval.EndsSparing base Answers (action environment state)

namespace Eval.Spares

variable {α β : Type} {base : Reserve} {environment : Environment} {Answers : α → Prop}
  {Next : β → Prop}

theorem pure {value : α} (answers : Answers value) :
    (Pure.pure value : Eval α).Spares base environment Answers :=
  fun _ spares => ⟨spares, answers⟩

theorem bind {first : Eval α} {next : α → Eval β} (sparesFirst : first.Spares base environment Answers)
    (sparesNext : ∀ value, Answers value → (next value).Spares base environment Next) :
    (first >>= next).Spares base environment Next := by
  intro state spares
  have middle := sparesFirst state spares
  rw [Running.run_bind]
  cases ran : first environment state with
  | ok value after =>
      rw [ran] at middle
      exact sparesNext value middle.2 after middle.1
  | error stop after =>
      rw [ran] at middle
      exact middle

theorem weaken {action : Eval α} {Weaker : α → Prop} (spares : action.Spares base environment Answers)
    (weaker : ∀ value, Answers value → Weaker value) : action.Spares base environment Weaker := by
  intro state sparesState
  have ended := spares state sparesState
  cases ran : action environment state with
  | ok value after =>
      rw [ran] at ended
      exact ⟨ended.1, weaker _ ended.2⟩
  | error stop after =>
      rw [ran] at ended
      exact ended

theorem any {action : Eval α} (spares : action.Spares base environment Answers) :
    action.Spares base environment fun _ => True :=
  spares.weaken fun _ _ => trivial

theorem map {image : α → β} {action : Eval α} (spares : action.Spares base environment Answers)
    (answers : ∀ value, Answers value → Next (image value)) :
    (image <$> action).Spares base environment Next := by
  rw [← bind_pure_comp]
  exact .bind spares fun value isAnswer => .pure (answers value isAnswer)

theorem read_bind {next : Environment → Eval α}
    (spares : (next environment).Spares base environment Answers) :
    (read >>= next).Spares base environment Answers :=
  fun state sparesState => spares state sparesState

theorem get_bind {next : State → Eval α}
    (spares : ∀ state, state.Spares base → (next state).Spares base environment Answers) :
    (get >>= next).Spares base environment Answers :=
  fun state sparesState => spares state sparesState state sparesState

theorem modify {change : State → State}
    (spares : ∀ state, state.Spares base → (change state).Spares base) :
    (modify change : Eval Unit).Spares base environment fun _ => True :=
  fun state sparesState => ⟨spares state sparesState, trivial⟩

theorem throw (stop : Interruption) :
    (MonadExcept.throw stop : Eval α).Spares base environment Answers :=
  fun _ spares => spares

theorem lift {computed : Except Fault α} (answers : ∀ value, computed = .ok value → Answers value) :
    (Eval.lift computed).Spares base environment Answers := by
  cases computed with
  | ok value => exact pure (answers value rfl)
  | error fault => exact throw _

theorem attempt {action : Eval α} (spares : action.Spares base environment Answers) :
    (Eval.attempt action).Spares base environment fun outcome =>
      ∀ value, outcome = .ok value → Answers value := by
  intro state sparesState
  have ended := spares state sparesState
  unfold Eval.attempt
  cases ran : action environment state with
  | ok value after =>
      rw [ran] at ended
      refine ⟨ended.1, fun found same => ?_⟩
      cases same
      exact ended.2
  | error stop after =>
      rw [ran] at ended
      cases stop with
      | exhausted => exact ended
      | fault fault =>
          dsimp only
          split
          · exact ended
          · exact ⟨ended, fun _ impossible => nomatch impossible⟩

theorem afterwards {action : Eval α} {change : State → State}
    (spares : action.Spares base environment Answers)
    (changes : ∀ state, state.Spares base → (change state).Spares base) :
    (Eval.afterwards action change).Spares base environment Answers := by
  intro state sparesState
  have ended := spares state sparesState
  unfold Eval.afterwards
  cases ran : action environment state with
  | ok value after =>
      rw [ran] at ended
      exact ⟨changes _ ended.1, ended.2⟩
  | error stop after =>
      rw [ran] at ended
      exact changes _ ended

theorem bindEither {condition : Prop} [Decidable condition] {first second : Eval α}
    {rest : α → Eval β} (sparesFirst : first.Spares base environment Answers)
    (sparesSecond : second.Spares base environment Answers)
    (sparesRest : ∀ value, Answers value → (rest value).Spares base environment Next) :
    Eval.Spares base environment Next (if condition then first >>= rest else second >>= rest) := by
  split
  · exact .bind sparesFirst sparesRest
  · exact .bind sparesSecond sparesRest

/-! ## Limits, values and errors -/

theorem tick : Eval.tick.Spares base environment fun _ => True := by
  intro state spares
  unfold Eval.tick
  dsimp only
  split
  · exact ⟨{ spares with }, trivial⟩
  · exact { spares with }

theorem check : Eval.check.Spares base environment fun _ => True := by
  intro state spares
  unfold Eval.check
  split
  · exact ⟨spares, trivial⟩
  · exact spares

theorem text (value : Value) : (Eval.text value).Spares base environment fun _ => True :=
  .get_bind fun _ _ => .pure trivial

theorem isTruthy (value : Value) : (Eval.isTruthy value).Spares base environment fun _ => True :=
  .get_bind fun _ _ => .pure trivial

theorem onHeap {compute : Heap → Except Fault α × Heap}
    (separates : ∀ heap, base.Separates heap → base.Separates (compute heap).2 ∧
      ∀ value, (compute heap).1 = .ok value → Answers value) :
    (Eval.onHeap compute).Spares base environment Answers := by
  intro state spares
  have computed := separates state.heap spares.heap
  unfold Eval.onHeap
  dsimp only
  generalize compute state.heap = result at computed
  rcases result with ⟨_ | value, heap⟩
  · exact spares.withHeap computed.1
  · exact ⟨spares.withHeap computed.1, computed.2 value rfl⟩

theorem allocate {compute : Heap → α × Heap}
    (separates : ∀ heap, base.Separates heap → base.Separates (compute heap).2 ∧
      Answers (compute heap).1) :
    (Eval.allocate compute).Spares base environment Answers := by
  refine .onHeap fun heap separate => ?_
  have computed := separates heap separate
  refine ⟨computed.1, fun value same => ?_⟩
  cases same
  exact computed.2

theorem modifyRun {change : Run → Run} (keeps : ∀ run, (change run).globals = run.globals) :
    (Eval.modifyRun change).Spares base environment fun _ => True := by
  refine .modify fun state spares => { spares with globals := fun name binding bound => ?_ }
  rw [show _ = state.run.globals from keeps state.run] at bound
  exact spares.globals name binding bound

theorem modifyFrame {change : Frame → Frame}
    (spares : ∀ frame, frame.Spares base → (change frame).Spares base) :
    (Eval.modifyFrame change).Spares base environment fun _ => True :=
  .modify fun _ sparesState => { sparesState with frame := spares _ sparesState.frame }

theorem report (kind value description : String) :
    (Eval.report kind value description).Spares base environment fun _ => True :=
  .read_bind (.modifyRun fun _ => rfl)

theorem raisePending :
    (Eval.modifyFrame Frame.raisePending).Spares base environment fun _ => True := by
  refine .modifyFrame fun frame spares => ?_
  unfold Frame.raisePending
  split
  · exact spares
  · exact { spares with }

theorem setError (fault : Fault) :
    (Eval.setError fault).Spares base environment fun _ => True :=
  .bind (.modifyRun fun _ => rfl) fun _ _ => raisePending

theorem mustHandleError : Eval.mustHandleError.Spares base environment fun _ => True :=
  .get_bind fun _ _ => .pure trivial

theorem clearErrorInfo : Eval.clearErrorInfo.Spares base environment fun _ => True :=
  .modifyRun fun _ => rfl

/-! ## `With` blocks -/

theorem withoutReceiver {state : State} (spares : state.Spares base) :
    (Eval.withoutReceiver state).Spares base :=
  { spares with
    frame := { spares.frame with
      receivers := fun receiver member =>
        spares.frame.receivers receiver (List.mem_of_mem_tail member) } }

theorem pushReceiver {object : Expr} (spared : (Node.expr object).Spares base) :
    (Eval.pushReceiver object).Spares base environment fun _ => True := by
  refine .modify fun state spares =>
    { spares with frame := { spares.frame with receivers := fun receiver member => ?_ } }
  rcases List.mem_cons.1 member with rfl | member
  · exact ⟨spared, nofun⟩
  · exact spares.frame.receivers receiver member

theorem popReceiver : Eval.popReceiver.Spares base environment fun _ => True :=
  .modify fun _ spares => withoutReceiver spares

/-! ## Files and memory -/

theorem writeFile (number : String) (value : Value) :
    (Eval.writeFile number value).Spares base environment fun _ => True :=
  .modify fun _ spares => { spares with }

theorem closeFile (number : String) :
    (Eval.closeFile number).Spares base environment fun _ => True := by
  refine .get_bind fun state _ => ?_
  split
  · exact .bind (.modifyRun fun _ => rfl) fun _ _ => report _ _ _
  · exact .pure trivial

theorem closeFiles (numbers : List String) :
    (Eval.closeFiles numbers).Spares base environment fun _ => True := by
  induction numbers with
  | nil => exact .pure trivial
  | cons number rest induction => exact .bind (closeFile number) fun _ _ => induction

theorem closeAllFiles : Eval.closeAllFiles.Spares base environment fun _ => True :=
  .get_bind fun _ _ => closeFiles _

theorem writeMemory (move : Move) :
    (Eval.writeMemory move).Spares base environment fun _ => True :=
  .modifyRun fun _ => rfl

/-! ## Variables -/

section

variable (outside : environment.Spares base)
include outside

theorem scope : Eval.scope.Spares base environment (Scope.Spares base) :=
  .get_bind fun _ spares => .read_bind (.pure (spares.scope outside))

theorem lookup? (name : String) :
    (Eval.lookup? name).Spares base environment fun found =>
      ∀ value ∈ found, base.IsApart value :=
  .bind (scope outside) fun _ spares => .pure fun _ read => spares.isApart_of_get? read

theorem variableOrNull (name : String) :
    (Eval.variableOrNull name).Spares base environment base.IsApart := by
  refine .bind (scope outside) fun scope spares => .pure ?_
  cases read : scope.get? name with
  | none => trivial
  | some value => exact spares.isApart_of_get? read

theorem procedure? (name : String) :
    (Eval.procedure? name).Spares base environment fun found =>
      ∀ procedure ∈ found, (Node.procedure procedure).Spares base :=
  .bind (scope outside) fun _ spares => .pure fun _ read => spares.spares_of_procedure? read

end

theorem assignVariable (placement : Placement) (type : Option DeclaredType) (name : String)
    {value : Value} (apart : base.IsApart value) :
    (Eval.assignVariable placement type name value).Spares base environment fun _ => True :=
  .read_bind (.modify fun _ spares => spares.assign placement type name apart)

theorem setVariable (name : String) {value : Value} (apart : base.IsApart value) :
    (Eval.setVariable name value).Spares base environment fun _ => True :=
  .read_bind (.modify fun _ spares => spares.set name apart)

/-! ## The library -/

theorem perform (routine : HostRoutine) (arguments : List Value) :
    (routine.perform arguments).Spares base environment base.IsApart := by
  have made (kind className : String) :
      (HostRoutine.makeObject kind className).Spares base environment base.IsApart :=
    .bind (report _ _ _) fun _ _ => .allocate fun _ separate => ⟨{ separate with }, trivial⟩
  refine .bind (text _) fun first _ => ?_
  cases routine with
  | now | today | timer => exact .read_bind (.pure trivial)
  | environment => exact .pure trivial
  | shell | run | dynamicCode | messageBox | saveToFile =>
      exact .bind (report _ _ _) fun _ _ => .pure trivial
  | createObject | getObject => exact made _ _
  | download =>
      exact .bind (text _) fun _ _ => .bind (report _ _ _) fun _ _ =>
        .bind (text _) fun _ _ => .bind (report _ _ _) fun _ _ => .pure trivial
  | openRequest =>
      exact .bind (text _) fun _ _ => .bind (report _ _ _) fun _ _ => .pure trivial
  | moveMemory =>
      exact .get_bind fun _ _ => .bind (writeMemory _) fun _ _ => .pure trivial

theorem callLibrary (function : LibraryFunction) {arguments : List Value}
    (apart : ∀ value ∈ arguments, base.IsApart value) :
    (Eval.callLibrary function arguments).Spares base environment base.IsApart := by
  refine .bind (.lift fun _ _ => trivial) fun _ _ => ?_
  cases function.routine with
  | pure routine => exact .onHeap fun _ separate => separate.apply routine apart
  | host routine => exact perform routine arguments

/-! ## The error object and containers -/

theorem callErrorMethod (lower : String) (arguments : List Value) :
    (Eval.callErrorMethod lower arguments).Spares base environment base.IsApart := by
  unfold Eval.callErrorMethod
  split
  · exact .get_bind fun _ _ => .throw _
  · split
    · exact .bind clearErrorInfo fun _ _ => .pure trivial
    · exact .pure trivial

theorem containerProperty? {container : Value} (apart : base.IsApart container) (lower : String) :
    (Eval.containerProperty? container lower).Spares base environment fun found =>
      ∀ value ∈ found, base.IsApart value := by
  have isCount (number : Int64) : ∀ value ∈ some (Value.integer number), base.IsApart value := by
    rintro _ ⟨⟩
    trivial
  have isNew {items : Array Value} (itemsApart : ∀ value ∈ items, base.IsApart value) :
      (some <$> Eval.allocate fun heap => heap.newList items).Spares base environment fun found =>
        ∀ value ∈ found, base.IsApart value := by
    refine .map (.allocate fun heap separate => separate.newList _ itemsApart) ?_
    rintro _ isApart _ ⟨⟩
    exact isApart
  unfold Eval.containerProperty?
  split
  · rename_i place
    refine .get_bind fun state spares => ?_
    dsimp only
    split
    · exact .pure (isCount _)
    · split
      · refine isNew fun value member => ?_
        rcases List.mem_map.1 (List.mem_toArray.1 member) with ⟨key, _, rfl⟩
        trivial
      · split
        · refine isNew fun value member => ?_
          exact spares.heap.isApart_of_mem_values apart (List.mem_toArray.1 member)
        · exact .pure nofun
  · split
    · exact .get_bind fun _ _ => .pure (isCount _)
    · exact .pure nofun
  · exact .pure nofun

theorem modifyMap {place : Nat} (apart : ¬ base.maps place)
    {change : Std.TreeMap String Value → Std.TreeMap String Value}
    (changes : ∀ entries : Std.TreeMap String Value,
      (∀ key value, entries.get? key = some value → base.IsApart value) →
      ∀ key value, (change entries).get? key = some value → base.IsApart value) :
    (Eval.modifyMap place change).Spares base environment fun _ => True :=
  .modify fun _ spares =>
    spares.withHeap (spares.heap.modifyMap apart (changes _ (spares.heap.entries _ apart)))

theorem callMapMethod? {place : Nat} (apart : ¬ base.maps place) (lower : String)
    {arguments : List Value} (areApart : ∀ value ∈ arguments, base.IsApart value) :
    (Eval.callMapMethod? place lower arguments).Spares base environment fun found =>
      ∀ value ∈ found, base.IsApart value := by
  have scalar {value : Value} (plain : value.isReference = false) :
      ∀ found ∈ some value, base.IsApart found := by
    rintro _ ⟨⟩
    exact Reserve.isApart_of_not_isReference plain
  refine .get_bind fun state spares => ?_
  dsimp only
  split
  · refine .bind (modifyMap apart fun entries before key value bound => ?_) fun _ _ =>
      .pure (scalar rfl)
    simp only [Std.TreeMap.get?_eq_getElem?, Std.TreeMap.getElem?_insert] at bound before
    split at bound
    · cases bound
      exact Reserve.isApart_getD areApart 1
    · exact before _ _ bound
  · split
    · exact .pure (scalar rfl)
    · split
      · refine .pure ?_
        rintro _ ⟨⟩
        exact spares.heap.isApart_getD_map apart _
      · split
        · refine .bind (modifyMap apart fun entries before key value bound => ?_) fun _ _ =>
            .pure (scalar rfl)
          simp only [Std.TreeMap.get?_eq_getElem?, Std.TreeMap.getElem?_erase] at bound before
          split at bound
          · cases bound
          · exact before _ _ bound
        · split
          · refine .bind (modifyMap apart fun entries before key value bound => ?_) fun _ _ =>
              .pure (scalar rfl)
            simp at bound
          · exact .pure nofun

theorem callContainerMethod? {container : Value} (apart : base.IsApart container) (lower : String)
    {arguments : List Value} (areApart : ∀ value ∈ arguments, base.IsApart value) :
    (Eval.callContainerMethod? container lower arguments).Spares base environment fun found =>
      ∀ value ∈ found, base.IsApart value := by
  unfold Eval.callContainerMethod?
  split
  · exact callMapMethod? apart lower areApart
  · split
    · refine .get_bind fun state spares =>
        .bind (.lift fun value read => spares.heap.isApart_indexValue _ apart read)
          fun value isApart => .pure ?_
      rintro _ ⟨⟩
      exact isApart
    · exact .pure nofun
  · exact .pure nofun

/-! ## Compiled loops -/

theorem compileLoop (outside : environment.Spares base) (loop : Statement) :
    (Eval.compileLoop loop).Spares base environment fun _ => True := by
  intro state spares
  have beside {later : State} (sparesLater : later.Spares base) {caches : Caches}
      (same : caches.constants = state.caches.constants) (sink : Option (Array Action))
      (ticks : UInt64) : (later.beside caches sink ticks).Spares base :=
    { sparesLater with remembered := same ▸ spares.remembered }
  have asked (key : String) := state.caches.constants_loop? key
  have stored (key : String) (entry : CachedLoop) :
      ((state.caches.loop? key).2.storeLoop key entry).constants = state.caches.constants := asked key
  have merged (result : LoopResult) (certain : List (String × DeclaredType)) :=
    spares.mergeResult outside result certain
  have offered := Eval.offerLoop_offered environment state loop
  simp only [Eval.compileLoop, Running.run_bind, Running.run_pure]
  generalize Eval.offerLoop loop environment state = ended at offered
  cases offered with
  | dynamic | refused => exact ⟨spares, trivial⟩
  | reused => exact ⟨beside (merged _ _) (asked _) _ _, trivial⟩
  | completed => exact ⟨beside (merged _ _) (stored _ _) _ _, trivial⟩
  | failedBefore => exact ⟨beside spares (asked _) _ _, trivial⟩
  | failed | endless => exact ⟨beside spares (stored _ _) _ _, trivial⟩
  | fatal => exact beside spares (asked _) _ _

end Eval.Spares

end MacroSandbox
