import MacroSandbox.Proofs.ElementLoops
import MacroSandbox.Proofs.FlatCopies
import MacroSandbox.Proofs.LoweredPrograms
import MacroSandbox.Proofs.Reachability
import MacroSandbox.Proofs.ReadNames
import MacroSandbox.Proofs.Variables

/-! The program of a loop whose names hold plain values and lists of them: it calls no function, its
variables start with the values that they have in the state, and all that it writes goes back. -/

namespace MacroSandbox

def Value.isPlain : Value → Bool
  | .integer _ | .float _ | .text _ | .boolean _ | .null => true
  | _ => false

theorem Value.isReference_of_isPlain {value : Value} (plain : value.isPlain = true) :
    value.isReference = false := by
  cases value <;> first | rfl | cases plain

namespace Caller

/-! ## Names of loops -/

/-- The lists of a loop, in lower case: the names that it uses with arguments, and the object of the
innermost `With` block if that is a list or a map. -/
def listNames (caller : Caller) (loop : Statement) : List String :=
  (Node.statement loop).reads.callees ++
    caller.receiverVariable?.toList.filter caller.holdsContainer

def scalarNames (caller : Caller) (loop : Statement) : List String :=
  ((Node.statement loop).reads.vars ++ (Node.statement loop).writes ++
    caller.receiverVariable?.toList).filter fun name => !(caller.listNames loop).contains name

def terms (caller : Caller) (loop : Statement) (constants : Value → Bool) : LoopTerms where
  assigned := (Node.statement loop).writes.filter fun name => !(caller.listNames loop).contains name
  lists := caller.listNames loop
  changed := (Node.statement loop).writes.filter (caller.listNames loop).contains
  constants

variable {caller : Caller} {loop : Statement} {name : String}

@[simp] theorem lists_terms (constants : Value → Bool) :
    (caller.terms loop constants).lists = caller.listNames loop :=
  rfl

@[simp] theorem mem_assigned_iff {constants : Value → Bool} :
    name ∈ (caller.terms loop constants).assigned ↔
      name ∈ (Node.statement loop).writes ∧ name ∉ caller.listNames loop := by
  simp [terms]

@[simp] theorem mem_changed_iff {constants : Value → Bool} :
    name ∈ (caller.terms loop constants).changed ↔
      name ∈ (Node.statement loop).writes ∧ name ∈ caller.listNames loop := by
  simp [terms]

theorem mem_scalarNames_of_writes (isWritten : name ∈ (Node.statement loop).writes)
    (noList : name ∉ caller.listNames loop) : name ∈ caller.scalarNames loop := by
  simp [scalarNames, isWritten, noList]

theorem mem_names_iff :
    name ∈ caller.scalarNames loop ∨ name ∈ caller.listNames loop ↔
      name ∈ (Node.statement loop).reads.vars ∨ name ∈ (Node.statement loop).writes ∨
        name ∈ (Node.statement loop).reads.callees ∨ caller.receiverVariable? = some name := by
  by_cases isList : name ∈ caller.listNames loop
  · simp only [isList, or_true, true_iff]
    rcases List.mem_append.1 isList with isCallee | isReceiver
    · exact .inr (.inr (.inl isCallee))
    · exact .inr (.inr (.inr (by simpa using (List.mem_filter.1 isReceiver).1)))
  · have notCallee : name ∉ (Node.statement loop).reads.callees :=
      fun isCallee => isList (List.mem_append_left _ isCallee)
    simp [scalarNames, isList, notCallee]

/-- A name is that of a variable without a list: it is plain, nothing that can be called has it, and
its value is plain if it has one. -/
structure HoldsScalar (caller : Caller) (name : String) : Prop where
  plainName : IsPlainName name
  noProcedure : caller.scope.procedure? name = none
  notCallable : caller.isCallable name = false
  isPlain : ∀ value, caller.scope.get? name = some value → value.isPlain = true

/-- A name is that of a list without references, which has no more items than a list may have. -/
structure HoldsItems (caller : Caller) (name : String) (place : Nat) : Prop where
  plainName : IsPlainName name
  noProcedure : caller.scope.procedure? name = none
  bound : caller.scope.get? name = some (.list place)
  owned : place < caller.heap.lists.size
  areScalar : ∀ item ∈ caller.heap.list place, item.isReference = false
  few : (caller.heap.list place).size ≤ maxAllocation

theorem HoldsItems.isFlat {place : Nat} (holds : caller.HoldsItems name place) :
    caller.heap.IsFlat (.list place) :=
  .inr ⟨place, rfl, holds.areScalar⟩

structure HoldsFlat (caller : Caller) (loop : Statement) : Prop where
  scalars : ∀ name ∈ caller.scalarNames loop, caller.HoldsScalar name
  lists : ∀ name ∈ caller.listNames loop, ∃ place, caller.HoldsItems name place

namespace HoldsFlat

theorem noProcedure (flat : caller.HoldsFlat loop)
    (member : name ∈ caller.scalarNames loop ∨ name ∈ caller.listNames loop) :
    caller.scope.procedure? name = none := by
  rcases member with isScalar | isList
  · exact (flat.scalars name isScalar).noProcedure
  · obtain ⟨place, holds⟩ := flat.lists name isList
    exact holds.noProcedure

theorem notCallable (flat : caller.HoldsFlat loop)
    (member : name ∈ caller.scalarNames loop ∨ name ∈ caller.listNames loop) :
    caller.isCallable name = false := by
  rcases member with isScalar | isList
  · exact (flat.scalars name isScalar).notCallable
  · obtain ⟨place, holds⟩ := flat.lists name isList
    simp [isCallable, holds.bound]

theorem reachableProcedures_eq_nil (flat : caller.HoldsFlat loop) :
    (Node.statement loop).reachableProcedures caller.scope = [] := by
  refine Node.reachableProcedures_eq_nil fun name member => flat.noProcedure ?_
  rw [mem_names_iff]
  rcases Node.mem_mentions_iff_mem_reads.1 member with isRead | isCalled
  · exact .inl isRead
  · exact .inr (.inr (.inl isCalled))

end HoldsFlat

/-! ## Initial values -/

theorem eq_of_programValue? {heap : Heap} {permissive : Bool} {value taken : Value}
    (resolved : value ≠ .unresolved) (takes : heap.programValue? permissive value = some taken) :
    taken = value := by
  unfold Heap.programValue? at takes
  split at takes
  · cases value with
    | unresolved => exact absurd rfl resolved
    | _ => exact (Option.some.inj takes).symm
  · cases takes

/-- Every variable has an initial value, and its type is certain only if it has no value before. -/
theorem of_prologue? {region : Node} : ∀ {names : List String} {values : List (String × Value)}
    {certain : List (String × DeclaredType)},
    caller.prologue? region names = some (values, certain) →
    (∀ name value, (name, value) ∈ values ↔
      name ∈ names ∧ (caller.initialValue? region name).map Prod.fst = some value) ∧
    (∀ name ∈ names, ((caller.initialValue? region name).map Prod.fst).isSome = true) ∧
    ((∀ name ∈ names, (caller.scope.get? name).isSome = true) → certain = [])
  | [], values, certain, takes => by
      cases takes
      simp
  | name :: rest, values, certain, takes => by
      rw [prologue?] at takes
      split at takes
      · rename_i first certainFirst others certainOthers takesFirst takesRest
        cases takes
        obtain ⟨members, initial, noneCertain⟩ := of_prologue? takesRest
        refine ⟨fun other held => ?_, fun other member => ?_, fun bound => ?_⟩
        · rw [List.mem_cons, List.mem_cons, members, Prod.mk.injEq]
          constructor
          · rintro (⟨rfl, rfl⟩ | ⟨inRest, found⟩)
            · exact ⟨.inl rfl, by rw [takesFirst]; rfl⟩
            · exact ⟨.inr inRest, found⟩
          · rintro ⟨rfl | inRest, found⟩
            · rw [takesFirst] at found
              cases found
              exact .inl ⟨rfl, rfl⟩
            · exact .inr ⟨inRest, found⟩
        · rcases List.mem_cons.1 member with rfl | inRest
          · rw [takesFirst]
            rfl
          · exact initial other inRest
        · have noneOthers := noneCertain fun other member => bound other (.tail _ member)
          have isBound := bound name (.head _)
          obtain ⟨value, holds⟩ := Option.isSome_iff_exists.1 isBound
          simp only [initialValue?, holds, Option.map_eq_some_iff, Prod.mk.injEq] at takesFirst
          obtain ⟨_, _, _, same⟩ := takesFirst
          rw [← same, noneOthers]
          rfl
      · cases takes

theorem coerceTo_programTypes {names : List String} {name : String} (member : name ∈ names)
    (heap : Heap) (value : Value) :
    heap.coerceTo ((Std.TreeMap.ofList (caller.programTypes names)).get? name) value =
      heap.coerceTo (caller.frame.types.get? name) value := by
  -- Assignments to variants and objects keep their value, so their types are left out.
  have listed (type : DeclaredType) : (name, type) ∈ caller.programTypes names ↔
      (caller.frame.types.get? name).filter (fun type => type != .variant && type != .object) =
        some type := by
    simp only [programTypes, List.mem_filterMap]
    constructor
    · rintro ⟨other, _, found⟩
      split at found <;> cases found
      rename_i isKnown
      rw [isKnown]
      cases type <;> simp_all
    · intro found
      refine ⟨name, member, ?_⟩
      cases known : caller.frame.types.get? name with
      | none => simp [known] at found
      | some other =>
          simp only [known, Option.filter_eq_some_iff, Option.some.injEq] at found
          obtain ⟨rfl, isListed⟩ := found
          cases other <;> first | rfl | cases isListed
  rw [get?_ofList_eq listed]
  cases known : caller.frame.types.get? name with
  | none => rfl
  | some type => cases type <;> cases value <;> rfl

/-! ## The program -/

structure IsFlatProgram (caller : Caller) (loop : Statement) (lowered : Lowered) : Prop where
  body : LoweringContext.lowerStatement? ⟨caller, lowered.program.prologue, none, none⟩ [] loop =
    some lowered.program.body
  certain : (∀ name, name ∈ caller.scalarNames loop ∨ name ∈ caller.listNames loop →
    (caller.scope.get? name).isSome = true) → lowered.certain = []
  prologue : ∀ name, name ∈ caller.scalarNames loop ∨ name ∈ caller.listNames loop →
    ∃ value, lowered.program.prologue.get? name = some value ∧
      (caller.scope.get? name = some value ∨
        caller.scope.get? name = none ∧ value.isReference = false)
  names : ∀ name value, lowered.program.prologue.get? name = some value →
    name ∈ caller.scalarNames loop ∨ name ∈ caller.listNames loop
  types : ∀ name, name ∈ caller.scalarNames loop ∨ name ∈ caller.listNames loop →
    ∀ (heap : Heap) (value : Value),
      heap.coerceTo (lowered.program.types.get? name) value =
        heap.coerceTo (caller.frame.types.get? name) value
  captures : ∀ name, name ∈ lowered.program.captures ↔
    name ∈ (Node.statement loop).writes ∨ caller.receiverVariable? = some name

theorem HoldsFlat.initialValue? (flat : caller.HoldsFlat loop) {region : Node} {value : Value}
    (member : name ∈ caller.scalarNames loop ∨ name ∈ caller.listNames loop)
    (initial : (caller.initialValue? region name).map Prod.fst = some value) :
    caller.scope.get? name = some value ∨
      caller.scope.get? name = none ∧ value.isReference = false := by
  cases bound : caller.scope.get? name with
  | none =>
      simp only [Caller.initialValue?, bound, Option.map_some, Option.some.injEq] at initial
      exact .inr ⟨rfl, initial ▸ isReference_initial _⟩
  | some held =>
      have resolved : held ≠ .unresolved := by
        rintro rfl
        rcases member with isScalar | isList
        · cases (flat.scalars name isScalar).isPlain _ bound
        · obtain ⟨place, holds⟩ := flat.lists name isList
          cases bound.symm.trans holds.bound
      simp only [Caller.initialValue?, bound, Option.map_map, Option.map_eq_some_iff] at initial
      obtain ⟨taken, takes, rfl⟩ := initial
      exact .inl (by rw [eq_of_programValue? resolved takes]; rfl)

theorem HoldsFlat.mem_used_iff (flat : caller.HoldsFlat loop) (name : String) :
    name ∈ (caller.loopNames (Node.statement loop)).used.toList ↔
      name ∈ caller.scalarNames loop ∨ name ∈ caller.listNames loop := by
  rw [Std.TreeSet.mem_toList, loopNames, Std.TreeSet.mem_ofList]
  simp only [List.contains_iff_mem, List.mem_append, List.mem_filter, Bool.not_eq_true',
    Option.mem_toList]
  constructor
  · rintro ((⟨isRead | isWritten, _⟩ | ⟨isCalled, _⟩) | isReceiver)
    · exact mem_names_iff.2 (.inl isRead)
    · exact mem_names_iff.2 (.inr (.inl isWritten))
    · exact mem_names_iff.2 (.inr (.inr (.inl isCalled)))
    · exact mem_names_iff.2 (.inr (.inr (.inr isReceiver)))
  · intro member
    have notCallable := flat.notCallable member
    rcases mem_names_iff.1 member with isRead | isWritten | isCalled | isReceiver
    · exact .inl (.inl ⟨.inl isRead, notCallable⟩)
    · exact .inl (.inl ⟨.inr isWritten, notCallable⟩)
    · obtain ⟨place, holds⟩ := flat.lists name (List.mem_append_left _ isCalled)
      exact .inl (.inr ⟨isCalled, by simp [holdsContainer, holds.bound]⟩)
    · exact .inr isReceiver

theorem isFlatProgram_of_lower? {lowered : Lowered} (lowers : caller.lower? loop = some lowered)
    (flat : caller.HoldsFlat loop) : caller.IsFlatProgram loop lowered := by
  obtain ⟨steps⟩ := steps_of_lower? lowers
  have names : steps.names = caller.loopNames (Node.statement loop) := by
    have added := steps.addsProcedures
    rw [flat.reachableProcedures_eq_nil] at added
    exact (Option.some.inj added).symm
  have used := flat.mem_used_iff
  rw [← names] at used
  obtain ⟨members, initial, noneCertain⟩ := of_prologue? steps.takesValues
  have found (name : String)
      (member : name ∈ caller.scalarNames loop ∨ name ∈ caller.listNames loop) :
      lowered.program.prologue.get? name =
        (caller.initialValue? (Node.statement loop) name).map Prod.fst := by
    rw [steps.prologue]
    refine get?_ofList_eq fun value => ?_
    rw [members, used]
    exact and_iff_right member
  refine
    { body := ?_
      certain := fun bound => noneCertain fun name member => bound name ((used name).1 member)
      prologue := ?_
      names := ?_
      types := ?_
      captures := ?_ }
  · rw [steps.prologue]
    exact steps.lowersBody
  · intro name member
    obtain ⟨value, isInitial⟩ := Option.isSome_iff_exists.1 (initial name ((used name).2 member))
    exact ⟨value, (found name member).trans isInitial, flat.initialValue? member isInitial⟩
  · intro name value isInitial
    rw [steps.prologue] at isInitial
    exact (used name).1 ((members name value).1 (mem_of_get?_ofList isInitial)).1
  · intro name member heap value
    rw [steps.types]
    exact coerceTo_programTypes ((used name).2 member) heap value
  · intro name
    rw [mem_captures_iff steps, Records, flat.reachableProcedures_eq_nil]
    simp only [List.not_mem_nil, false_and, exists_false, or_false]
    refine or_congr_left ⟨fun written => written.1, fun written => ⟨written, ?_⟩⟩
    exact flat.notCallable (mem_names_iff.2 (.inr (.inl written)))

end Caller

/-! ## The start of the machine -/

/-- The variables of a program over flat values start with copies of their values, lists in places of
their own. -/
theorem Machine.start_of_flat {caller : Caller} {loop : Statement} {lowered : Lowered}
    (program : caller.IsFlatProgram loop lowered) (flat : caller.HoldsFlat loop)
    (limiter : Limiter) :
    (∀ name, name ∈ caller.scalarNames loop ∨ name ∈ caller.listNames loop → ∃ value copy,
      (caller.scope.get? name = some value ∨
        caller.scope.get? name = none ∧ value.isReference = false) ∧
      (start lowered.program caller.heap limiter).store.get? name = some copy ∧
      caller.heap.IsCopy caller.heap (start lowered.program caller.heap limiter).heap value copy) ∧
    ∀ {name other : String} {value : Value}, value.isReference = true →
      (start lowered.program caller.heap limiter).store.get? name = some value →
      (start lowered.program caller.heap limiter).store.get? other = some value →
      name = other := by
  -- A first value is that of a flat variable or the start value of its type.
  have flatValues : ∀ name value, lowered.program.prologue.get? name = some value →
      caller.heap.IsFlat value := by
    intro name value found
    have member := program.names name value found
    obtain ⟨held, isHeld, bound | ⟨_, scalar⟩⟩ := program.prologue name member
    · obtain rfl : value = held := Option.some.inj (found.symm.trans isHeld)
      rcases member with isScalar | isList
      · exact .inl (Value.isReference_of_isPlain ((flat.scalars name isScalar).isPlain _ bound))
      · obtain ⟨place, holds⟩ := flat.lists name isList
        obtain rfl : value = .list place := Option.some.inj (bound.symm.trans holds.bound)
        exact holds.isFlat
    · obtain rfl : value = held := Option.some.inj (found.symm.trans isHeld)
      exact .inl scalar
  obtain ⟨copies, distinct⟩ := copyPrologue_of_flat flatValues
  refine ⟨fun name member => ?_, distinct⟩
  obtain ⟨value, isInitial, bound⟩ := program.prologue name member
  obtain ⟨copy, stored, isCopy⟩ := copies name value isInitial
  exact ⟨value, copy, bound, stored, isCopy⟩

end MacroSandbox
