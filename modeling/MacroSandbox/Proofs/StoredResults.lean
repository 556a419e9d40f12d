import MacroSandbox.Proofs.Copies
import MacroSandbox.Proofs.SparedRuns

/-! Results that stay in the places of their run.

The result of a run could be remembered as the values that the run ends with: references to lists and
maps that the machine made, of which a copy is written back every time. This is a model of that. The
lists and maps of the run are in reserve from then on: the copies do not refer to them, so nothing that
runs later reaches or changes them, and every copy holds the data that the run computed. -/

namespace MacroSandbox

/-! ## Results with places -/

/-- What a run leaves, in the places of the run. -/
structure StoredResult where
  updates : List (String × Value)
  memory : Memory

def Machine.storedResult (program : LoopProgram) (final : State) : StoredResult :=
  { updates := program.captures.toList.filterMap fun name =>
      (final.store.get? name).map fun value => (name, value)
    memory := final.memory }

namespace State

def mergeCopies (environment : Environment) (state : State) : List (String × Value) → State
  | [] => state
  | (name, stored) :: rest =>
      let (value, heap) := state.heap.copy stored
      ({ state with heap }.mergeValue environment name value).mergeCopies environment rest

/-- Writes a result back, without giving away the places of its run. -/
def mergeStored (environment : Environment) (state : State) (stored : StoredResult)
    (certain : List (String × DeclaredType)) : State :=
  let state := state.mergeCopies environment stored.updates
  let state := { state with run.memory := state.run.memory.merge stored.memory }
  state.mergeTypes certain

def afterStored (environment : Environment) (state : State) (lowered : Lowered)
    (final : Machine.State) : State :=
  let key := lowered.program.render state.heap
  let kept := { state with heap := final.heap, run.limiter := final.limiter }
  let stored := Machine.storedResult lowered.program final
  let merged := kept.mergeStored environment stored lowered.certain
  { merged with caches :=
      (state.caches.loop? key).2.storeLoop key (.done (Machine.result lowered.program final)) }

end State

/-! ## Reserves of runs -/

def Heap.reserveSince (earlier later : Heap) : Reserve where
  heap := later
  lists place := earlier.lists.size ≤ place ∧ place < later.lists.size
  maps place := earlier.maps.size ≤ place ∧ place < later.maps.size

def Heap.beyond (heap : Heap) : Reserve where
  heap := heap
  lists place := heap.lists.size ≤ place
  maps place := heap.maps.size ≤ place

/-- A state refers to no place that its heap does not have. -/
structure State.IsClosed (environment : Environment) (state : State) : Prop where
  names : state.Omits state.heap.beyond
  outside : environment.Spares state.heap.beyond
  items : ∀ place, ∀ value ∈ state.heap.list place, state.heap.beyond.IsApart value
  entries : ∀ place key value, (state.heap.map place).get? key = some value →
    state.heap.beyond.IsApart value

namespace Reserve

structure IsPartOf (base outer : Reserve) : Prop where
  lists : ∀ place, base.lists place → outer.lists place
  maps : ∀ place, base.maps place → outer.maps place

namespace IsPartOf

variable {base outer : Reserve} (isPart : base.IsPartOf outer)
include isPart

theorem isApart {value : Value} (apart : outer.IsApart value) : base.IsApart value := by
  cases value with
  | list place => exact fun inside => apart (isPart.lists place inside)
  | map place => exact fun inside => apart (isPart.maps place inside)
  | _ => trivial

theorem node {node : Node} (spares : node.Spares outer) : node.Spares base :=
  fun value inside => isPart.isApart (spares value inside)

theorem statements {statements : List Statement} (spares : Statement.ListSpares outer statements) :
    Statement.ListSpares base statements :=
  fun statement member => isPart.node (spares statement member)

theorem binding {binding : Binding} (spares : binding.Spares outer) : binding.Spares base := by
  cases binding with
  | value held => exact isPart.isApart spares
  | procedure held => exact isPart.node spares

theorem frame {frame : Frame} (spares : frame.Spares outer) : frame.Spares base where
  locals name binding bound := isPart.binding (spares.locals name binding bound)
  receivers receiver member :=
    ⟨isPart.node (spares.receivers receiver member).object,
      fun value known => isPart.isApart ((spares.receivers receiver member).value value known)⟩
  handler body isHandler := isPart.statements (spares.handler body isHandler)
  labelled name body isLabelled := isPart.statements (spares.labelled name body isLabelled)

theorem omits {state : State} (omits : state.Omits outer) : state.Omits base where
  globals name binding bound := isPart.binding (omits.globals name binding bound)
  frame := isPart.frame omits.frame
  remembered source value known := isPart.isApart (omits.remembered source value known)

theorem environment {environment : Environment} (spares : environment.Spares outer) :
    environment.Spares base where
  constants name value named := isPart.isApart (spares.constants name value named)
  cells workbook document sheet cell value filled :=
    isPart.isApart (spares.cells workbook document sheet cell value filled)

end IsPartOf

end Reserve

theorem Heap.isPartOf_beyond (earlier later : Heap) :
    (earlier.reserveSince later).IsPartOf earlier.beyond :=
  ⟨fun _ => And.left, fun _ => And.left⟩

/-- A closed state, whose heap has grown apart from its places, does not refer to the new ones. -/
theorem State.IsClosed.spares {environment : Environment} {state : State} {later : Heap}
    (closed : state.IsClosed environment) (separate : state.heap.reserve.Separates later) :
    State.Spares (state.heap.reserveSince later) { state with heap := later } where
  globals := ((state.heap.isPartOf_beyond later).omits closed.names).globals
  frame := ((state.heap.isPartOf_beyond later).omits closed.names).frame
  remembered := ((state.heap.isPartOf_beyond later).omits closed.names).remembered
  heap := by
    have isPart := state.heap.isPartOf_beyond later
    refine ⟨fun _ _ => rfl, fun _ _ => rfl, fun _ => And.right, fun _ => And.right, Nat.le_refl _,
      Nat.le_refl _, ?_, ?_⟩
    · intro place outside value member
      rcases Nat.lt_or_ge place state.heap.lists.size with old | new
      · have same : later.list place = state.heap.list place := by
          simp only [Heap.list, Array.getD_eq_getD_getElem?, separate.lists place old]
          rfl
        rw [same] at member
        exact isPart.isApart (closed.items place value member)
      · have missing : ¬ place < later.lists.size := fun inside => outside ⟨new, inside⟩
        simp [Heap.list, Array.getD, missing] at member
    · intro place outside key value found
      rcases Nat.lt_or_ge place state.heap.maps.size with old | new
      · have same : later.map place = state.heap.map place := by
          simp only [Heap.map, Array.getD_eq_getD_getElem?, separate.maps place old]
          rfl
        rw [same] at found
        exact isPart.isApart (closed.entries place key value found)
      · have missing : ¬ place < later.maps.size := fun inside => outside ⟨new, inside⟩
        simp [Heap.map, Array.getD, missing] at found

/-! ## Writing copies back -/

namespace State.Spares

variable {environment : Environment} {base : Reserve} {state : State}

theorem mergeCopies (spares : state.Spares base) (outside : environment.Spares base)
    (updates : List (String × Value)) : (state.mergeCopies environment updates).Spares base := by
  induction updates generalizing state with
  | nil => exact spares
  | cons update rest induction =>
      rcases update with ⟨name, stored⟩
      have copied := spares.heap.copy stored
      exact induction ((spares.withHeap copied.1).mergeValue outside name copied.2)

theorem mergeStored (spares : state.Spares base) (outside : environment.Spares base)
    (stored : StoredResult) (certain : List (String × DeclaredType)) :
    (state.mergeStored environment stored certain).Spares base := by
  let merged := state.mergeCopies environment stored.updates
  have sparesMerged : merged.Spares base := spares.mergeCopies outside stored.updates
  have withMemory :
      State.Spares base { merged with run.memory := merged.run.memory.merge stored.memory } :=
    { sparesMerged with }
  exact withMemory.mergeTypes certain

end State.Spares

/-! ## Copies and data -/

namespace Heap

/-- A value refers to nothing that is not there, and it does not hold itself: it shows what it
holds. -/
structure IsFinite (heap : Heap) (value : Value) : Prop where
  isThere : ({} : Heap).IsNewSince heap value
  shows : ({} : Heap).Shows heap (heap.contents value) value

variable {first final later : Heap}

theorem shows_of_showsAll {base heap : Heap} {holds : Value → Datum} {values : List Value}
    (shows : base.ShowsAll heap (values.map holds) values) {value : Value} (member : value ∈ values) :
    base.IsNewSince heap value ∧ base.Shows heap (holds value) value := by
  induction values with
  | nil => cases member
  | cons first rest induction =>
      rw [List.map_cons, ShowsAll] at shows
      rcases shows with ⟨_, _, ⟨⟩, isNew, showsFirst, showsRest⟩
      rcases List.mem_cons.1 member with rfl | later
      · exact ⟨isNew, showsFirst⟩
      · exact induction showsRest later

theorem list_eq_of_separates (kept : (first.reserveSince final).Separates later) {place : Nat}
    (isOwn : first.reserve.IsApart (.list place)) (isThere : ({} : Heap).IsNewSince final (.list place)) :
    later.list place = final.list place := by
  have same : later.lists[place]? = final.lists[place]? :=
    kept.lists place ⟨Nat.le_of_not_lt isOwn, isThere.2⟩
  simp only [list, Array.getD_eq_getD_getElem?, same]

theorem map_eq_of_separates (kept : (first.reserveSince final).Separates later) {place : Nat}
    (isOwn : first.reserve.IsApart (.map place)) (isThere : ({} : Heap).IsNewSince final (.map place)) :
    later.map place = final.map place := by
  have same : later.maps[place]? = final.maps[place]? :=
    kept.maps place ⟨Nat.le_of_not_lt isOwn, isThere.2⟩
  simp only [map, Array.getD_eq_getD_getElem?, same]

/-- A value that a run made holds what it did as long as the lists and maps of the run are kept,
however deep one looks. -/
theorem contentsWithin_eq_of_separates (separate : first.reserve.Separates final)
    (kept : (first.reserveSince final).Separates later) {depth deeper : Nat} {value : Value}
    (enough : depth ≤ deeper) (isOwn : first.reserve.IsApart value)
    (isThere : ({} : Heap).IsNewSince final value)
    (shows : ({} : Heap).Shows final (final.contentsWithin depth value) value) :
    later.contentsWithin deeper value = final.contentsWithin depth value := by
  induction depth generalizing deeper value with
  | zero =>
      cases value with
      | list place =>
          rw [contentsWithin, Shows] at shows
          rcases shows with ⟨_, ⟨⟩, isEmpty⟩
          rw [ShowsAll] at isEmpty
          cases deeper with
          | zero => rfl
          | succ deeper =>
              rw [contentsWithin, contentsWithin, list_eq_of_separates kept isOwn isThere, isEmpty,
                List.map_nil]
      | map place =>
          rw [contentsWithin, Shows] at shows
          rcases shows with ⟨_, ⟨⟩, noKeys, noValues⟩
          rw [ShowsAll] at noValues
          cases deeper with
          | zero => rfl
          | succ deeper =>
              rw [contentsWithin, contentsWithin, map_eq_of_separates kept isOwn isThere, noKeys,
                noValues, List.map_nil]
      | _ => simp only [contentsWithin]
  | succ depth induction =>
      rcases Nat.exists_eq_add_of_lt enough with ⟨more, rfl⟩
      cases value with
      | list place =>
          rw [contentsWithin, Shows] at shows
          rcases shows with ⟨_, ⟨⟩, showsItems⟩
          rw [contentsWithin, contentsWithin, list_eq_of_separates kept isOwn isThere]
          refine congrArg Datum.list (List.map_congr_left fun item member => ?_)
          rcases shows_of_showsAll showsItems member with ⟨itemIsThere, showsItem⟩
          exact induction (by omega) (separate.items place isOwn item (Array.mem_toList_iff.1 member))
            itemIsThere showsItem
      | map place =>
          rw [contentsWithin, Shows] at shows
          rcases shows with ⟨_, ⟨⟩, _, showsValues⟩
          rw [contentsWithin, contentsWithin, map_eq_of_separates kept isOwn isThere]
          refine congrArg (Datum.map _) (List.map_congr_left fun item member => ?_)
          rcases shows_of_showsAll showsValues member with ⟨itemIsThere, showsItem⟩
          exact induction (by omega) (separate.isApart_of_mem_values isOwn member) itemIsThere
            showsItem
      | _ => simp only [contentsWithin]

theorem contents_eq_of_separates (separate : first.reserve.Separates final)
    (kept : (first.reserveSince final).Separates later) {value : Value}
    (isOwn : first.reserve.IsApart value) (isFinite : final.IsFinite value) :
    later.contents value = final.contents value := by
  refine contentsWithin_eq_of_separates separate kept ?_ isOwn isFinite.isThere isFinite.shows
  exact Nat.succ_le_succ (Nat.add_le_add kept.lists_size_le kept.maps_size_le)

end Heap

namespace State

variable {environment : Environment} {first final : Heap} {state : State}

/-- Copies of values that a run made hold what the run computed, wherever they are written back. -/
theorem mergeCopies_eq (outside : environment.Spares (first.reserveSince final))
    (separate : first.reserve.Separates final) {updates : List (String × Value)}
    (areOwn : ∀ update ∈ updates, first.reserve.IsApart update.2)
    (areFinite : ∀ update ∈ updates, final.IsFinite update.2)
    (spares : state.Spares (first.reserveSince final)) :
    state.mergeCopies environment updates =
      state.mergeUpdates environment
        (updates.map fun (name, stored) => (name, final.contents stored)) := by
  induction updates generalizing state with
  | nil => rfl
  | cons update rest induction =>
      rcases update with ⟨name, stored⟩
      have same : state.heap.contents stored = final.contents stored :=
        Heap.contents_eq_of_separates separate spares.heap (areOwn _ List.mem_cons_self)
          (areFinite _ List.mem_cons_self)
      have copied := spares.heap.copy stored
      have onRest := induction (fun update member => areOwn update (List.mem_cons_of_mem _ member))
        (fun update member => areFinite update (List.mem_cons_of_mem _ member))
        ((spares.withHeap copied.1).mergeValue outside name copied.2)
      rw [Heap.copy, same] at onRest
      rw [mergeCopies, Heap.copy, same]
      exact onRest

end State

/-! ## Out of reach -/

/-- What a run from a heap left in its places is out of reach of a state: the lists and maps of the run
are as they were, no value that can be reached is one of them, and for every state that does not refer
to them, copies of them are what the run computed. -/
structure Machine.State.IsOutOfReach (environment : Environment) (first : Heap)
    (program : LoopProgram) (final : Machine.State) (later : MacroSandbox.State) : Prop where
  spares : later.Spares (first.reserveSince final.heap)
  isApart : ∀ value, later.Reaches environment value →
    (first.reserveSince final.heap).IsApart value
  copies : ∀ other : MacroSandbox.State, other.Spares (first.reserveSince final.heap) →
    (∀ name ∈ program.captures, ∀ value, final.store.get? name = some value →
      final.heap.IsFinite value) →
    ∀ certain, other.mergeStored environment (Machine.storedResult program final) certain =
      other.mergeResult environment (Machine.result program final) certain

theorem Machine.map_storedResult (program : LoopProgram) (final : State) :
    (Machine.storedResult program final).updates.map
        (fun (name, stored) => (name, final.heap.contents stored)) =
      (Machine.result program final).updates := by
  simp only [Machine.storedResult, Machine.result, List.map_filterMap, Option.map_map]
  rfl

/-- The lists and maps of a run stay out of reach of the caller and of all statements that follow. -/
theorem State.IsClosed.isOutOfReach {environment : Environment} {state : State}
    (closed : state.IsClosed environment) (lowered : Lowered) {statements : List Statement}
    (spared : Statement.ListSpares state.heap.beyond statements) :
    let final := (Machine.run lowered.program environment.policy state.heap state.run.limiter).2
    final.IsOutOfReach environment state.heap lowered.program
      ((Eval.block statements).after environment (state.afterStored environment lowered final)) := by
  have confined := Machine.confined_run lowered.program environment.policy state.heap
    state.run.limiter (fun _ => True) (fun _ _ => trivial) (fun _ _ _ _ _ => trivial)
  intro final
  change Machine.Confined _ _ _ final at confined
  have isPart := state.heap.isPartOf_beyond final.heap
  have outside := isPart.environment closed.outside
  have kept := closed.spares confined.heap
  have afterwards : (state.afterStored environment lowered final).Spares
      (state.heap.reserveSince final.heap) := by
    let limited : State := { state with heap := final.heap, run.limiter := final.limiter }
    have sparesLimited : limited.Spares (state.heap.reserveSince final.heap) := { kept with }
    have merged := sparesLimited.mergeStored outside (Machine.storedResult lowered.program final)
      lowered.certain
    have same : (state.afterStored environment lowered final).caches.constants =
        state.caches.constants := state.caches.constants_loop? _
    exact { merged with remembered := same ▸ kept.remembered }
  have spares := Eval.spares_block outside afterwards (isPart.statements spared)
  refine ⟨spares, fun value => spares.isApart_of_reaches outside, fun other sparesOther finite _ => ?_⟩
  have inStore {update : String × Value}
      (member : update ∈ (Machine.storedResult lowered.program final).updates) :
      update.1 ∈ lowered.program.captures ∧ final.store.get? update.1 = some update.2 := by
    rcases List.mem_filterMap.1 member with ⟨name, captured, bound⟩
    rcases Option.map_eq_some_iff.1 bound with ⟨value, isFinal, rfl⟩
    exact ⟨Std.TreeSet.mem_toList.1 captured, isFinal⟩
  have same := State.mergeCopies_eq outside confined.heap
    (fun update member => confined.store _ _ (inStore member).2)
    (fun update member => finite _ (inStore member).1 _ (inStore member).2) sparesOther
  rw [Machine.map_storedResult] at same
  unfold State.mergeStored State.mergeResult
  rw [same]
  rfl

end MacroSandbox
