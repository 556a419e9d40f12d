import MacroSandbox.Proofs.FlatResults
import MacroSandbox.Proofs.LoopIsolation
import MacroSandbox.Proofs.LoopRuns

/-! What the caller of a loop over plain values and lists has once the result of its program was
written back, next to what the interpretation of the loop leaves: the same lists with the same items,
and the same values up to the types of variables that the loop did not assign. -/

namespace MacroSandbox

/-! ## Names in lower case -/

theorem Node.asciiLower_of_mem_writes {node : Node} {name : String} (member : name ∈ node.writes) :
    Text.asciiLower name = name := by
  obtain ⟨inner, _, written⟩ := List.mem_filterMap.1 member
  unfold writtenName? at written
  split at written
  · obtain ⟨target, _, rfl⟩ := Option.map_eq_some_iff.1 written
    exact Text.asciiLower_asciiLower target
  · cases written
    exact Text.asciiLower_asciiLower _
  · cases written
    exact Text.asciiLower_asciiLower _
  · cases written

theorem Caller.asciiLower_of_receiverVariable? {caller : Caller} {name : String}
    (isReceiver : caller.receiverVariable? = some name) : Text.asciiLower name = name := by
  unfold receiverVariable? at isReceiver
  split at isReceiver
  · cases isReceiver
  · split at isReceiver
    · cases isReceiver
    · dsimp only at isReceiver
      split at isReceiver <;> cases isReceiver
      exact Text.asciiLower_asciiLower _

/-! ## Results of loops -/

namespace IsElementLoop

variable {environment : Environment} {state started interpreted merged : State} {loop : Statement}
  {constants : Value → Bool} {lowered : Lowered} {final : Machine.State} {name : String}

theorem asciiLower_of_mem_captures (element : IsElementLoop environment state loop constants)
    (lowers : (state.caller environment).lower? loop = some lowered)
    (captured : name ∈ lowered.program.captures) : Text.asciiLower name = name := by
  rcases ((Caller.isFlatProgram_of_lower? lowers element.flat).captures name).1 captured with
    isWritten | isReceiver
  · exact Node.asciiLower_of_mem_writes isWritten
  · exact Caller.asciiLower_of_receiverVariable? isReceiver

theorem mem_names_of_mem_captures (element : IsElementLoop environment state loop constants)
    (lowers : (state.caller environment).lower? loop = some lowered)
    (captured : name ∈ lowered.program.captures) :
    name ∈ (state.caller environment).scalarNames loop ∨
      name ∈ (state.caller environment).listNames loop := by
  rw [Caller.mem_names_iff]
  rcases ((Caller.isFlatProgram_of_lower? lowers element.flat).captures name).1 captured with
    isWritten | isReceiver
  · exact .inr (.inl isWritten)
  · exact .inr (.inr (.inr isReceiver))

/-- No two names whose values go back mean one list: at least one of them is written. -/
theorem eq_of_captured_list (element : IsElementLoop environment state loop constants)
    (lowers : (state.caller environment).lower? loop = some lowered) {other : String} {place : Nat}
    (captured : name ∈ lowered.program.captures) (otherCaptured : other ∈ lowered.program.captures)
    (bound : (state.scope environment).get? name = some (.list place))
    (otherBound : (state.scope environment).get? other = some (.list place)) : name = other := by
  have program := Caller.isFlatProgram_of_lower? lowers element.flat
  have isList {captured : String} (member : captured ∈ lowered.program.captures)
      (means : (state.scope environment).get? captured = some (.list place)) :
      captured ∈ (state.caller environment).listNames loop := by
    refine (element.mem_names_of_mem_captures lowers member).resolve_left fun isScalar => ?_
    cases (element.flat.scalars captured isScalar).isPlain _ means
  have sameMeaning := bound.trans otherBound.symm
  rcases (program.captures name).1 captured with isWritten | isReceiver
  · exact element.unshared name (Caller.mem_changed_iff.2 ⟨isWritten, isList captured bound⟩) other
      (isList otherCaptured otherBound) sameMeaning
  · rcases (program.captures other).1 otherCaptured with otherWritten | otherReceiver
    · exact (element.unshared other
        (Caller.mem_changed_iff.2 ⟨otherWritten, isList otherCaptured otherBound⟩) name
        (isList captured bound) sameMeaning.symm).symm
    · exact Option.some.inj (isReceiver.symm.trans otherReceiver)

variable (element : IsElementLoop environment state loop constants)
  (lowers : (state.caller environment).lower? loop = some lowered)
  (inStep : (LoopPair.ofProgram environment state loop constants lowered.program).InStep
    ((state.caller environment).boundNames loop) interpreted final)
  (untouched : state.IsUntouched started)

include element lowers

theorem list_of_inStep (inStep : (LoopPair.ofProgram environment state loop constants
      lowered.program).InStep ((state.caller environment).boundNames loop) interpreted final)
    (isList : Text.asciiLower name ∈ (state.caller environment).listNames loop) :
    ∃ place copy, (state.scope environment).value? name = some (.list place) ∧
      final.store.get? (Text.asciiLower name) = some (.list copy) ∧
      place < state.heap.lists.size ∧
      LoopPair.ItemsAgree interpreted.heap final.heap place copy := by
  obtain ⟨place, copy, copies, owned, _⟩ := element.exists_copied lowers isList
  refine ⟨place, copy, copies.1, ?_, owned, inStep.lists isList copies⟩
  have notAssigned : Text.asciiLower name ∉
      ((state.caller environment).terms loop constants).assigned :=
    fun isAssigned => (Caller.mem_assigned_iff.1 isAssigned).2 isList
  exact (inStep.keptInStore _ notAssigned).trans copies.2

theorem mem_listNames_of_captured_list
    (inStep : (LoopPair.ofProgram environment state loop constants lowered.program).InStep
      ((state.caller environment).boundNames loop) interpreted final)
    (captured : name ∈ lowered.program.captures) {copy : Nat}
    (stored : final.store.get? name = some (.list copy)) :
    name ∈ (state.caller environment).listNames loop := by
  have lower := element.asciiLower_of_mem_captures lowers captured
  refine (element.mem_names_of_mem_captures lowers captured).resolve_left fun isScalar => ?_
  obtain ⟨value, scalar, held, _⟩ := inStep.values name (by rwa [lower])
  rw [lower, stored] at held
  cases held
  cases scalar

include inStep untouched

theorem areReturnable :
    started.AreReturnable environment final.heap final.store.get?
      lowered.program.captures.toList := by
  have sameScope := untouched.scope_eq environment
  have sameHeap := untouched.heap_eq
  have lower {name : String} (member : name ∈ lowered.program.captures.toList) :
      Text.asciiLower name = name :=
    element.asciiLower_of_mem_captures lowers (Std.TreeSet.mem_toList.1 member)
  have plain {name : String} (member : name ∈ lowered.program.captures.toList) :
      IsPlainName name := by
    rcases element.mem_names_of_mem_captures lowers (Std.TreeSet.mem_toList.1 member) with
      isScalar | isList
    · exact (element.flat.scalars name isScalar).plainName
    · obtain ⟨_, holds⟩ := element.flat.lists name isList
      exact holds.plainName
  have nodup : lowered.program.captures.toList.Nodup :=
    Std.TreeSet.distinct_toList.imp fun differs same => differs (by simp [same])
  refine
    { plain := fun name member => plain member
      lower := fun name member => lower member
      nodup
      apart := ?_
      returns := ?_ }
  · refine List.Pairwise.imp_of_mem (fun {first second} inFirst inSecond differs => ?_) nodup
    intro place bound otherBound
    rw [sameScope, ← Scope.get?_eq_value? (plain inFirst)] at bound
    rw [sameScope, ← Scope.get?_eq_value? (plain inSecond)] at otherBound
    exact differs (element.eq_of_captured_list lowers (Std.TreeSet.mem_toList.1 inFirst)
      (Std.TreeSet.mem_toList.1 inSecond) bound otherBound)
  · intro name member
    have captured := Std.TreeSet.mem_toList.1 member
    rcases element.mem_names_of_mem_captures lowers captured with isScalar | isList
    · have isVariable : Text.asciiLower name ∈ (state.caller environment).scalarNames loop := by
        rwa [lower member]
      obtain ⟨value, scalar, stored, _⟩ := inStep.values name isVariable
      rw [lower member] at stored
      exact .scalar stored scalar
    · have isList : Text.asciiLower name ∈ (state.caller environment).listNames loop := by
        rwa [lower member]
      obtain ⟨place, copy, bound, stored, owned, agree⟩ :=
        element.list_of_inStep lowers inStep isList
      rw [lower member] at stored
      refine .items stored (by rw [sameScope]; exact bound) (by rw [sameHeap]; exact owned) ?_
      rw [agree.items]
      exact agree.areScalar

/-- What is written back are final values, and then types may be recorded. -/
theorem isReturned_of_mergeResult
    (merges : started.mergeResult environment (Machine.result lowered.program final)
      lowered.certain = merged) :
    ∃ returned, State.IsReturned environment final.heap final.store.get?
        lowered.program.captures.toList started returned ∧
      merged = returned.mergeTypes lowered.certain := by
  have noMemory : final.memory = {} := by
    rw [inStep.varied]
    rfl
  have sameMemory (memory : Memory) : memory.merge {} = memory := by
    simp [Memory.merge]
  refine ⟨_, (element.areReturnable lowers inStep untouched).isReturned, ?_⟩
  rw [← merges]
  simp only [State.mergeResult, Machine.result, noMemory, sameMemory]
  rfl

/-- A name means after the write what it means after the interpretation, unless it is that of a
variable which the loop left as it was: its type is applied to its value, and it has a value from then
on. -/
theorem value?_of_isReturned {returned : State}
    (isReturned : State.IsReturned environment final.heap final.store.get?
      lowered.program.captures.toList started returned) (name : String) :
    (returned.scope environment).value? name = (interpreted.scope environment).value? name ∨
      Text.asciiLower name ∈ (state.caller environment).scalarNames loop ∧
        ∃ value : Value, value.isReference = false ∧
          (returned.scope environment).value? name =
            some (state.heap.coerceTo (state.frame.types.get? name) value) ∧
          ((interpreted.scope environment).value? name = some value ∧
              (state.scope environment).value? name = some value ∨
            (interpreted.scope environment).value? name = none ∧
              Text.asciiLower name ∉ (state.caller environment).boundNames loop) := by
  have program := Caller.isFlatProgram_of_lower? lowers element.flat
  have sameScope := untouched.scope_eq environment
  have sameHeap := untouched.heap_eq
  have sameTypes := congrArg Frame.types untouched.frame_eq
  -- A name that is neither assigned nor written back keeps its value on both sides.
  have sameUnless (notAssigned : Text.asciiLower name ∉
        ((state.caller environment).terms loop constants).assigned)
      (notReturned : Text.asciiLower name ∈ lowered.program.captures.toList → ∃ copy,
        final.store.get? (Text.asciiLower name) = some (.list copy)) :
      (returned.scope environment).value? name = (interpreted.scope environment).value? name := by
    rw [isReturned.others name notReturned, sameScope]
    exact (inStep.kept name notAssigned).symm
  by_cases captured : Text.asciiLower name ∈ lowered.program.captures
  · rcases element.mem_names_of_mem_captures lowers captured with isScalar | isList
    · obtain ⟨value, scalar, stored, meant⟩ := inStep.values name isScalar
      have written := isReturned.scalars name (Std.TreeSet.mem_toList.2 captured) value stored scalar
      rw [sameHeap, sameTypes] at written
      -- A variable without a value before may differ: the machine starts it with a value.
      rcases meant with ⟨named, stable | original⟩ | ⟨unnamed, unbound⟩
      · exact .inl (written.trans ((congrArg some stable).trans named.symm))
      · exact .inr ⟨isScalar, value, scalar, written, .inl ⟨named, original⟩⟩
      · exact .inr ⟨isScalar, value, scalar, written, .inr ⟨unnamed, unbound⟩⟩
    · obtain ⟨_, copy, _, stored, _⟩ := element.list_of_inStep lowers inStep isList
      exact .inl (sameUnless (fun isAssigned => (Caller.mem_assigned_iff.1 isAssigned).2 isList)
        fun _ => ⟨copy, stored⟩)
  · refine .inl (sameUnless (fun isAssigned => captured ?_) fun member => ?_)
    · exact (program.captures _).2 (.inl (Caller.mem_assigned_iff.1 isAssigned).1)
    · exact absurd (Std.TreeSet.mem_toList.1 member) captured

theorem list_of_isReturned {returned : State}
    (isReturned : State.IsReturned environment final.heap final.store.get?
      lowered.program.captures.toList started returned) {place : Nat}
    (owned : place < state.heap.lists.size) :
    returned.heap.list place = interpreted.heap.list place := by
  have program := Caller.isFlatProgram_of_lower? lowers element.flat
  have sameScope := untouched.scope_eq environment
  have sameHeap := untouched.heap_eq
  by_cases goesBack : ∃ name ∈ lowered.program.captures.toList,
      (∃ copy, final.store.get? name = some (.list copy)) ∧
        (state.scope environment).value? name = some (.list place)
  · obtain ⟨name, member, ⟨copy, stored⟩, bound⟩ := goesBack
    have captured := Std.TreeSet.mem_toList.1 member
    have lower := element.asciiLower_of_mem_captures lowers captured
    rw [isReturned.items name member place copy stored (by rw [sameScope]; exact bound)]
    have isList := element.mem_listNames_of_captured_list lowers inStep captured stored
    rw [← lower] at isList
    obtain ⟨meant, held, sameBound, sameStored, _, agree⟩ :=
      element.list_of_inStep lowers inStep isList
    rw [lower, stored] at sameStored
    cases sameStored
    cases bound.symm.trans sameBound
    exact agree.items
  · -- No name means this list, so neither side writes to it.
    have untouchedList := isReturned.kept place (by rw [sameHeap]; exact owned)
      fun name member copy stored bound =>
        goesBack ⟨name, member, ⟨copy, stored⟩, by rwa [sameScope] at bound⟩
    have sameList : interpreted.heap.lists[place]? = state.heap.lists[place]? := by
      refine inStep.others place fun name isChanged bound => goesBack ?_
      obtain ⟨isWritten, isList⟩ := Caller.mem_changed_iff.1 isChanged
      obtain ⟨_, copy, _, stored, _⟩ := element.list_of_inStep lowers inStep isList
      exact ⟨_, Std.TreeSet.mem_toList.2 ((program.captures _).2 (.inl isWritten)), ⟨copy, stored⟩,
        by rw [Scope.value?_asciiLower]; exact bound⟩
    rw [untouchedList, sameHeap]
    simp only [Heap.list, Array.getD_eq_getD_getElem?, sameList]

theorem restrictTo_of_isReturned {returned : State}
    (isReturned : State.IsReturned environment final.heap final.store.get?
      lowered.program.captures.toList started returned) :
    returned.heap.restrictTo interpreted.heap = interpreted.heap := by
  have sameHeap := untouched.heap_eq
  have size : interpreted.heap.lists.size = state.heap.lists.size := inStep.listsSize
  have grown := isReturned.grown
  rw [sameHeap] at grown
  have lists : returned.heap.lists.shrink interpreted.heap.lists.size = interpreted.heap.lists := by
    refine Heap.shrink_eq_of_kept fun place inside => ?_
    have owned : place < state.heap.lists.size := size ▸ inside
    have same := element.list_of_isReturned lowers inStep untouched isReturned owned
    have inReturned : place < returned.heap.lists.size := Nat.lt_of_lt_of_le owned grown
    simpa [Heap.list, Array.getD_eq_getD_getElem?, inside, inReturned] using same
  have sameRest : interpreted.heap = { state.heap with lists := interpreted.heap.lists } :=
    inStep.heap
  rw [Heap.restrictTo, lists, isReturned.onlyLists, sameHeap, sameRest]
  simp [Array.shrink_eq_take]

end IsElementLoop

end MacroSandbox
