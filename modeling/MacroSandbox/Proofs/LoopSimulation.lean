import MacroSandbox.Proofs.GrowingArrays
import MacroSandbox.Proofs.LoopFollowing

/-! The states that a loop and its program go through: the variables of the machine hold what the
names of the interpreter mean, and for every list of the loop the machine has a copy with the same
items. A list that the loop writes must not have two names in it, for the machine has a copy for each
of them. -/

namespace MacroSandbox

/-! ## States that differ in values -/

/-- A state differs from an earlier one in the values of names, in the indicators that were found in
them, and in the ticks of the limiter. -/
def State.Varies (before after : State) : Prop :=
  after = { before with
    frame.locals := after.frame.locals
    run.globals := after.run.globals
    run.indicators := after.run.indicators
    run.limiter.ticks := after.run.limiter.ticks }

namespace State.Varies

theorem refl (state : State) : state.Varies state :=
  rfl

theorem trans {first second third : State} (left : first.Varies second)
    (right : second.Varies third) : first.Varies third := by
  unfold State.Varies at *
  rw [right, left]

theorem scanValue (state : State) (value : Value) : state.Varies (state.scanValue value) := by
  cases value <;> rfl

theorem bind (state : State) (placement : Placement) (name : String) (binding : Binding) :
    state.Varies (state.bind placement name binding) := by
  unfold State.bind
  split <;> rfl

theorem withTicks (state : State) (ticks : UInt64) : state.Varies (state.withTicks ticks) :=
  rfl

theorem set {name : String} (plain : IsPlainName name) (state : State) (environment : Environment)
    (value : Value) : state.Varies (state.set environment name value) := by
  rw [State.set_eq_bind plain]
  exact (scanValue state _).trans (bind _ _ _ _)

theorem withHeap {before after : State} (varies : before.Varies after) (heap : Heap) :
    State.Varies { before with heap } { after with heap } := by
  unfold State.Varies at *
  rw [varies]

theorem heap_eq {before after : State} (varies : before.Varies after) :
    after.heap = before.heap := by
  rw [varies]

end State.Varies

def State.VariesInData (before after : State) : Prop :=
  { before with heap := after.heap, caches := after.caches }.Varies after

namespace State.VariesInData

theorem refl (state : State) : state.VariesInData state :=
  rfl

theorem varies {first second third : State} (left : first.VariesInData second)
    (right : second.Varies third) : first.VariesInData third := by
  unfold State.VariesInData State.Varies at *
  rw [right, left]

theorem withHeap {first second : State} (varies : first.VariesInData second) (heap : Heap) :
    first.VariesInData { second with heap } := by
  unfold State.VariesInData State.Varies at *
  rw [varies]

theorem recalling {first second : State} (varies : first.VariesInData second) (caches : Caches)
    (ticks : UInt64) : first.VariesInData (second.recalling caches ticks) := by
  unfold State.VariesInData State.Varies State.recalling at *
  rw [varies]

theorem types_eq {before after : State} (varies : before.VariesInData after) :
    after.frame.types = before.frame.types := by
  rw [varies]

end State.VariesInData

namespace Heap

/-- What becomes of a value does not depend on any place: containers are not converted. -/
theorem coerceTo_congr (type : Option DeclaredType) (heap other : Heap) (value : Value) :
    heap.coerceTo type value = other.coerceTo type value := by
  rcases type with _ | type
  · rfl
  · cases type <;> cases value <;> rfl

theorem coerceTo_coerceTo (heap : Heap) (type : Option DeclaredType) (value : Value) :
    heap.coerceTo type (heap.coerceTo type value) = heap.coerceTo type value := by
  cases type with
  | none => rfl
  | some type => cases type <;> cases value <;> rfl

end Heap

/-! ## Pairs of runs -/

/-- The interpretation of a loop from a state, and a run of its program from a state of the
machine. -/
structure LoopPair where
  environment : Environment
  state : State
  setup : Machine.Setup
  machine : Machine.State
  scalars : List String
  terms : LoopTerms

namespace LoopPair

/-- A name means this list before the loop, and the machine starts with this copy of it. -/
def Copies (pair : LoopPair) (name : String) (place copy : Nat) : Prop :=
  (pair.state.scope pair.environment).value? name = some (.list place) ∧
    pair.machine.store.get? (Text.asciiLower name) = some (.list copy)

/-- Nothing gets in the way of either side: no loop is compiled inside, nothing is read from the
document, no error waits, and calls are not nested too deep. No variable is a list, and every list has
a copy of its own; if the loop writes it, it has no other name in the loop. -/
structure IsUnhindered (pair : LoopPair) : Prop where
  interprets : pair.environment.policy.compileLoops = false
  noText : pair.environment.text = {}
  notPending : pair.state.frame.errorState ≠ .pending
  depth : pair.state.run.limiter.depth ≤ pair.state.run.limiter.maxDepth
  limiter : pair.machine.limiter = pair.state.run.limiter
  root : pair.machine.locals = none
  plain : ∀ name, Text.asciiLower name ∈ pair.scalars → IsPlainName name
  plainLists : ∀ name, Text.asciiLower name ∈ pair.terms.lists → IsPlainName name
  assigned : ∀ name ∈ pair.terms.assigned, name ∈ pair.scalars
  changed : ∀ name ∈ pair.terms.changed, name ∈ pair.terms.lists
  apart : ∀ name ∈ pair.terms.lists, name ∉ pair.terms.assigned
  toldApart : Value.AreToldApart (pair.terms.constants · = true)
  types : ∀ name, Text.asciiLower name ∈ pair.scalars → ∀ (heap : Heap) (value : Value),
    heap.coerceTo (pair.machine.types.get? (Text.asciiLower name)) value =
      heap.coerceTo (pair.state.frame.types.get? name) value
  copied : ∀ name, Text.asciiLower name ∈ pair.terms.lists → ∃ place copy,
    pair.Copies name place copy ∧ place < pair.state.heap.lists.size ∧
      copy < pair.machine.heap.lists.size
  distinct : ∀ {name other place otherPlace copy},
    Text.asciiLower name ∈ pair.terms.lists → Text.asciiLower other ∈ pair.terms.lists →
    pair.Copies name place copy → pair.Copies other otherPlace copy →
    Text.asciiLower name = Text.asciiLower other
  unshared : ∀ {name other place copy otherCopy},
    Text.asciiLower name ∈ pair.terms.changed → Text.asciiLower other ∈ pair.terms.lists →
    pair.Copies name place copy → pair.Copies other place otherCopy →
    Text.asciiLower name = Text.asciiLower other

/-- A variable has a value on the machine, and the same one in the interpreter unless it has none
there. Its type leaves the value as it is, unless this is the value from before the loop. -/
def HoldsSame (pair : LoopPair) (bound : List String) (state : State) (machine : Machine.State)
    (name : String) : Prop :=
  ∃ value : Value, value.isReference = false ∧
    machine.store.get? (Text.asciiLower name) = some value ∧
    (((state.scope pair.environment).value? name = some value ∧
        (pair.state.heap.coerceTo (pair.state.frame.types.get? name) value = value ∨
          (pair.state.scope pair.environment).value? name = some value)) ∨
      ((state.scope pair.environment).value? name = none ∧ Text.asciiLower name ∉ bound))

structure ItemsAgree (heap copies : Heap) (place copy : Nat) : Prop where
  items : copies.list copy = heap.list place
  areScalar : ∀ value ∈ heap.list place, value.isReference = false
  few : (heap.list place).size ≤ maxAllocation

structure InStep (pair : LoopPair) (bound : List String) (state : State) (machine : Machine.State) :
    Prop where
  varies : pair.state.VariesInData state
  varied : machine = { pair.machine with
    heap := machine.heap
    store := machine.store
    limiter.ticks := machine.limiter.ticks
    iterations := machine.iterations }
  remembers : pair.terms.AreRemembered state.caches
  areVariables : ∀ name ∈ bound, name ∈ pair.scalars
  values : ∀ name, Text.asciiLower name ∈ pair.scalars → pair.HoldsSame bound state machine name
  kept : ∀ name, Text.asciiLower name ∉ pair.terms.assigned →
    (state.scope pair.environment).value? name = (pair.state.scope pair.environment).value? name
  keptInStore : ∀ name, name ∉ pair.terms.assigned →
    machine.store.get? name = pair.machine.store.get? name
  lists : ∀ {name place copy}, Text.asciiLower name ∈ pair.terms.lists →
    pair.Copies name place copy → ItemsAgree state.heap machine.heap place copy
  heap : state.heap = { pair.state.heap with lists := state.heap.lists }
  listsSize : state.heap.lists.size = pair.state.heap.lists.size
  copiesSize : machine.heap.lists.size = pair.machine.heap.lists.size
  others : ∀ place, (∀ name, Text.asciiLower name ∈ pair.terms.changed →
      (pair.state.scope pair.environment).value? name ≠ some (.list place)) →
    state.heap.lists[place]? = pair.state.heap.lists[place]?

variable {pair : LoopPair} {bound : List String} {state : State} {machine : Machine.State}

/-! ## Reading -/

namespace InStep

theorem root (inStep : pair.InStep bound state machine) (unhindered : pair.IsUnhindered) :
    machine.locals = none := by
  rw [inStep.varied]
  exact unhindered.root

theorem load (inStep : pair.InStep bound state machine) (unhindered : pair.IsUnhindered)
    {name : String} (isBound : Text.asciiLower name ∈ bound) :
    ∃ value : Value, value.isReference = false ∧
      (state.scope pair.environment).get? name = some value ∧
      Machine.load (Text.asciiLower name) pair.setup machine = .ok value machine := by
  have isVariable := inStep.areVariables _ isBound
  obtain ⟨value, scalar, stored, ⟨named, _⟩ | ⟨_, notBound⟩⟩ := inStep.values name isVariable
  · refine ⟨value, scalar, ?_, ?_⟩
    · rw [Scope.get?_eq_value? (unhindered.plain name isVariable), named]
    · simp only [Machine.load, inStep.root unhindered, stored, Option.getD_some]
  · exact absurd isBound notBound

theorem holdsList (inStep : pair.InStep bound state machine) (unhindered : pair.IsUnhindered)
    {name : String} {place copy : Nat} (isList : Text.asciiLower name ∈ pair.terms.lists)
    (copies : pair.Copies name place copy) :
    (state.scope pair.environment).get? name = some (.list place) ∧
      Machine.load (Text.asciiLower name) pair.setup machine = .ok (.list copy) machine := by
  have notAssigned := unhindered.apart _ isList
  refine ⟨?_, ?_⟩
  · rw [Scope.get?_eq_value? (unhindered.plainLists name isList), inStep.kept name notAssigned,
      copies.1]
  · have stored := (inStep.keptInStore _ notAssigned).trans copies.2
    simp only [Machine.load, inStep.root unhindered, stored, Option.getD_some]

end InStep

/-! ## Assigning -/

theorem InStep.coerceTo (inStep : pair.InStep bound state machine) (unhindered : pair.IsUnhindered)
    {name : String} (isVariable : Text.asciiLower name ∈ pair.scalars) (value : Value) :
    machine.heap.coerceTo (machine.types.get? (Text.asciiLower name)) value =
      state.heap.coerceTo (state.frame.types.get? name) value := by
  have sameMachineTypes : machine.types = pair.machine.types := by rw [inStep.varied]
  rw [inStep.varies.types_eq, sameMachineTypes, unhindered.types name isVariable,
    Heap.coerceTo_congr _ machine.heap state.heap]

theorem get?_storeInProgram (machine : Machine.State) (name other : String) (value : Value) :
    (Machine.storeInProgram machine name value).store.get? other =
      if name = other then some (machine.heap.coerceTo (machine.types.get? name) value)
      else machine.store.get? other := by
  simp only [Machine.storeInProgram, Std.TreeMap.get?_eq_getElem?, Std.TreeMap.getElem?_insert,
    Std.LawfulEqCmp.compare_eq_iff_eq]

theorem InStep.holdsSame_set (inStep : pair.InStep bound state machine)
    (unhindered : pair.IsUnhindered) {name other : String}
    (isVariable : Text.asciiLower name ∈ pair.scalars)
    (otherVariable : Text.asciiLower other ∈ pair.scalars) {value : Value}
    (scalar : value.isReference = false) :
    pair.HoldsSame (Text.asciiLower name :: bound) (state.set pair.environment name value)
      (Machine.storeInProgram machine (Text.asciiLower name) value) other := by
  unfold HoldsSame
  rw [State.value?_set (unhindered.plain name isVariable), get?_storeInProgram,
    inStep.coerceTo unhindered isVariable value]
  by_cases same : Text.asciiLower name = Text.asciiLower other
  · refine ⟨_, Heap.isReference_coerceTo scalar, if_pos same, .inl ⟨if_pos same, .inl ?_⟩⟩
    have sameType : pair.state.frame.types.get? other = pair.state.frame.types.get? name := by
      simp only [NameMap.get?, same]
    rw [sameType, inStep.varies.types_eq, Heap.coerceTo_congr _ state.heap pair.state.heap]
    exact Heap.coerceTo_coerceTo ..
  · obtain ⟨held, heldScalar, stored, meant⟩ := inStep.values other otherVariable
    rw [if_neg same, if_neg same]
    refine ⟨held, heldScalar, stored, meant.imp_right fun unbound => ⟨unbound.1, fun member => ?_⟩⟩
    rcases List.mem_cons.1 member with same' | member
    · exact same same'.symm
    · exact unbound.2 member

theorem InStep.assign (inStep : pair.InStep bound state machine) (unhindered : pair.IsUnhindered)
    {name : String} (isAssigned : Text.asciiLower name ∈ pair.terms.assigned) {value : Value}
    (scalar : value.isReference = false) :
    Machine.store (Text.asciiLower name) value pair.setup machine =
        .ok () (Machine.storeInProgram machine (Text.asciiLower name) value) ∧
      pair.InStep (Text.asciiLower name :: bound) (state.set pair.environment name value)
        (Machine.storeInProgram machine (Text.asciiLower name) value) := by
  have isVariable := unhindered.assigned _ isAssigned
  have plain := unhindered.plain name isVariable
  have sameHeap := (State.Varies.set plain state pair.environment value).heap_eq
  -- Only the values change. The heaps stay, so all that is known of lists stays.
  refine ⟨by simp only [Machine.store, inStep.root unhindered], ?_⟩
  refine
    { varies := inStep.varies.varies (.set plain state pair.environment value)
      varied := ?_
      remembers := ?_
      areVariables := ?_
      values := fun other otherVariable =>
        inStep.holdsSame_set unhindered isVariable otherVariable scalar
      kept := ?_
      keptInStore := ?_
      lists := ?_
      heap := by rw [sameHeap]; exact inStep.heap
      listsSize := by rw [sameHeap]; exact inStep.listsSize
      copiesSize := inStep.copiesSize
      others := by rw [sameHeap]; exact inStep.others }
  · rw [inStep.varied]
    rfl
  · rw [State.Varies.set plain state pair.environment value]
    exact inStep.remembers
  · intro other member
    rcases List.mem_cons.1 member with rfl | member
    · exact isVariable
    · exact inStep.areVariables other member
  · intro other notAssigned
    have differs : ¬ Text.asciiLower name = Text.asciiLower other :=
      fun same => notAssigned (same ▸ isAssigned)
    rw [State.value?_set plain, if_neg differs]
    exact inStep.kept other notAssigned
  · intro other notAssigned
    have differs : ¬ Text.asciiLower name = other := fun same => notAssigned (same ▸ isAssigned)
    rw [get?_storeInProgram, if_neg differs]
    exact inStep.keptInStore other notAssigned
  · intro other place copy isList copies
    have agree := inStep.lists isList copies
    exact ⟨by rw [sameHeap]; exact agree.items, by rw [sameHeap]; exact agree.areScalar,
      by rw [sameHeap]; exact agree.few⟩

/-! ## Writing elements -/

namespace ItemsAgree

variable {heap copies : Heap} {place copy other otherCopy position : Nat} {value : Value}

theorem writeItem (agree : ItemsAgree heap copies place copy) (hasPlace : place < heap.lists.size)
    (hasCopy : copy < copies.lists.size) (inside : position < (heap.list place).size)
    (scalar : value.isReference = false) :
    ItemsAgree (heap.writeItem place position value) (copies.writeItem copy position value) place
      copy := by
  have insideCopy : position < (copies.list copy).size := by rw [agree.items]; exact inside
  have written := @Heap.list_writeItem_self _ _ _ value hasPlace inside
  refine ⟨?_, ?_, ?_⟩
  · rw [written, Heap.list_writeItem_self hasCopy insideCopy, agree.items]
  · rw [written]
    intro item member
    rcases Array.mem_or_eq_of_mem_setIfInBounds member with before | rfl
    · exact agree.areScalar item before
    · exact scalar
  · rw [written, Array.size_setIfInBounds]
    exact agree.few

theorem writeItem_of_ne (agree : ItemsAgree heap copies other otherCopy) (differs : place ≠ other)
    (differsCopy : copy ≠ otherCopy) :
    ItemsAgree (heap.writeItem place position value) (copies.writeItem copy position value) other
      otherCopy := by
  refine ⟨?_, ?_, ?_⟩
  · rw [Heap.list_writeItem_of_ne differs, Heap.list_writeItem_of_ne differsCopy, agree.items]
  · rw [Heap.list_writeItem_of_ne differs]
    exact agree.areScalar
  · rw [Heap.list_writeItem_of_ne differs]
    exact agree.few

end ItemsAgree

theorem InStep.writeItem (inStep : pair.InStep bound state machine) (unhindered : pair.IsUnhindered)
    {name : String} {place copy : Nat} (isChanged : Text.asciiLower name ∈ pair.terms.changed)
    (copies : pair.Copies name place copy) (hasPlace : place < pair.state.heap.lists.size)
    (hasCopy : copy < pair.machine.heap.lists.size) {position : Nat} {value : Value}
    (inside : position < (state.heap.list place).size) (scalar : value.isReference = false) :
    pair.InStep bound { state with heap := state.heap.write (.item place position) value }
      { machine with heap := machine.heap.write (.item copy position) value } := by
  have isList := unhindered.changed _ isChanged
  have agree := inStep.lists isList copies
  have hasPlace : place < state.heap.lists.size := by rw [inStep.listsSize]; exact hasPlace
  have hasCopy : copy < machine.heap.lists.size := by rw [inStep.copiesSize]; exact hasCopy
  refine
    { varies := inStep.varies.withHeap _
      varied := ?_
      remembers := inStep.remembers
      areVariables := inStep.areVariables
      values := inStep.values
      kept := inStep.kept
      keptInStore := inStep.keptInStore
      lists := ?_
      heap := ?_
      listsSize := by simp [Heap.write, Heap.writeItem, Heap.modifyList, inStep.listsSize]
      copiesSize := by simp [Heap.write, Heap.writeItem, Heap.modifyList, inStep.copiesSize]
      others := ?_ }
  · rw [inStep.varied]
  · intro other otherPlace otherCopy otherList otherCopies
    have otherAgree := inStep.lists otherList otherCopies
    by_cases same : Text.asciiLower name = Text.asciiLower other
    · -- The name itself: both lists are written to.
      have sameMeaning : pair.Copies name otherPlace otherCopy := by
        refine ⟨?_, same ▸ otherCopies.2⟩
        rw [← Scope.value?_asciiLower, same, Scope.value?_asciiLower]
        exact otherCopies.1
      obtain rfl := Value.list.inj (Option.some.inj (copies.1.symm.trans sameMeaning.1))
      obtain rfl := Value.list.inj (Option.some.inj (copies.2.symm.trans sameMeaning.2))
      exact agree.writeItem hasPlace hasCopy inside scalar
    · -- Another name: neither its list nor its copy is written to.
      have otherwise : place ≠ otherPlace := by
        rintro rfl
        exact same (unhindered.unshared isChanged otherList copies otherCopies)
      have otherwiseCopy : copy ≠ otherCopy := by
        rintro rfl
        exact same (unhindered.distinct isList otherList copies otherCopies)
      exact otherAgree.writeItem_of_ne otherwise otherwiseCopy
  · conv => lhs; rw [Heap.write, Heap.writeItem, Heap.modifyList, inStep.heap]
    rfl
  · intro other untouched
    have differs : place ≠ other := by
      rintro rfl
      exact untouched name isChanged copies.1
    simp only [Heap.write, Heap.getElem?_writeItem_of_ne differs]
    exact inStep.others other untouched

/-! ## The two sides -/

def lockStep (pair : LoopPair) : LockStep where
  environment := pair.environment
  setup := pair.setup
  isTimed := pair.state.run.limiter.deadline.isSome
  terms := pair.terms
  InStep := pair.InStep

theorem IsUnhindered.isSound (unhindered : pair.IsUnhindered) : pair.lockStep.IsSound where
  interprets := unhindered.interprets
  noText := unhindered.noText
  notPending inStep := by
    rw [inStep.varies]
    simpa using unhindered.notPending
  limits inStep := by
    rw [inStep.varied]
    simp only [unhindered.limiter]
    exact ⟨unhindered.depth, rfl⟩
  weaken {bound fewer state machine} subset inStep :=
    { inStep with
      areVariables := fun name member => inStep.areVariables name (subset name member)
      values := fun name isVariable => by
        obtain ⟨value, scalar, stored, meant⟩ := inStep.values name isVariable
        refine ⟨value, scalar, stored, meant.imp_right fun unbound => ⟨unbound.1, ?_⟩⟩
        exact fun member => unbound.2 (subset _ member) }
  apart := unhindered.toldApart
  remembers inStep := inStep.remembers
  recalled inStep caches ticks remembered :=
    { inStep with varies := inStep.varies.recalling caches ticks, remembers := remembered }
  counted {bound state machine} inStep iterations ticks :=
    { inStep with varied := by rw [inStep.varied] }
  load inStep isBound := inStep.load unhindered isBound
  store inStep isAssigned scalar := by
    obtain ⟨stores, inStepAfter⟩ := inStep.assign unhindered isAssigned scalar
    exact ⟨_, stores, inStepAfter, rfl⟩
  element {bound state machine name} inStep isList := by
    obtain ⟨place, copy, copies, _⟩ := unhindered.copied name isList
    obtain ⟨holds, loads⟩ := inStep.holdsList unhindered isList copies
    have agree := inStep.lists isList copies
    exact ⟨place, copy, holds, loads, agree.items, agree.areScalar⟩
  change {bound state machine name} inStep isChanged := by
    have isList := unhindered.changed _ isChanged
    obtain ⟨place, copy, copies, hasPlace, hasCopy⟩ := unhindered.copied name isList
    obtain ⟨holds, loads⟩ := inStep.holdsList unhindered isList copies
    have agree := inStep.lists isList copies
    refine ⟨place, copy, ⟨holds, loads, agree.items, agree.areScalar⟩, agree.few, ?_⟩
    exact fun position value inside scalar =>
      inStep.writeItem unhindered isChanged copies hasPlace hasCopy inside scalar

end LoopPair

end MacroSandbox
