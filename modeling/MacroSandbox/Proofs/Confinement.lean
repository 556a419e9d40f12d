import MacroSandbox.Loop.Machine
import MacroSandbox.Proofs.Faults
import MacroSandbox.Proofs.Separation

/-! What a run of the machine can change: places of its own, the variables that its statements
assign to, and the ticks of the limiter.

The machine is opened once. `Keeps` says that a part of a run keeps an invariant however it ends;
there is one lemma for each way to put parts together, and one for each function of the machine. -/

namespace MacroSandbox

/-! ## Assigned variables -/

namespace LoopStatement

mutual

/-- The names that a statement may bind or assign to, as a whole or in an element. Declarations count
if `declares` says so: in a function they bind names of the function. -/
def targets (declares : Bool) : LoopStatement → List String
  | .dim declarations => if declares then declarations.map (·.name) else []
  | .assign name _ => [name]
  | .assignElement name _ _ => [name]
  | .overwrite name _ _ _ => [name]
  | .branch arms otherwise => targetsOfArms declares arms ++ targetsOfBlock declares otherwise
  | .forRange index _ _ _ body => index :: targetsOfBlock declares body
  | .forEach index _ body => index :: targetsOfBlock declares body
  | .conditional _ _ body => targetsOfBlock declares body
  | .evaluate _ | .break _ | .return => []

def targetsOfArms (declares : Bool) : List LoopArm → List String
  | [] => []
  | arm :: rest => targetsOfArm declares arm ++ targetsOfArms declares rest

def targetsOfArm (declares : Bool) : LoopArm → List String
  | .mk _ body => targetsOfBlock declares body

def targetsOfBlock (declares : Bool) : List LoopStatement → List String
  | [] => []
  | statement :: rest => statement.targets declares ++ targetsOfBlock declares rest

end

end LoopStatement

namespace Machine

/-! ## Invariants of parts of a run -/

/-- The whole emulation ends for faults only that say that a resource is used up. -/
def Stop.IsJust (limiter : Limiter) : Stop → Prop
  | .halt (.fatal cause) => cause.Exhausts limiter
  | _ => True

theorem Stop.isJust_ofFault {limiter : Limiter} {cause : Fault}
    (exhausts : cause.isFatal = true → cause.Exhausts limiter) :
    (Stop.ofFault cause).IsJust limiter := by
  unfold Stop.ofFault
  split
  · exact exhausts ‹_›
  · trivial

theorem Stop.IsJust.imp {left right : Limiter} {stop : Stop} (isJust : stop.IsJust left)
    (implies : ∀ cause : Fault, cause.Exhausts left → cause.Exhausts right) :
    stop.IsJust right := by
  match stop, isJust with
  | .halt (.fatal cause), exhausts => exact implies cause exhausts
  | .fault _, _ | .halt .runaway, _ | .halt (.failed _), _ => trivial

theorem Stop.isJust_of_not_isFatal {limiter : Limiter} {cause : Fault}
    (ordinary : cause.isFatal = false) : (Stop.ofFault cause).IsJust limiter :=
  isJust_ofFault fun isFatal => absurd isFatal (Bool.eq_false_iff.1 ordinary)

def Ends {α : Type} (limiter : Limiter) (Invariant : State → Prop) (Result : α → Prop) :
    EStateM.Result Stop State α → Prop
  | .ok value after => Invariant after ∧ Result value
  | .error stop after => Invariant after ∧ stop.IsJust limiter

/-- A part of a run keeps an invariant however it ends, and its value satisfies `Result`. -/
def Keeps {α : Type} (setup : Setup) (limiter : Limiter) (Invariant : State → Prop)
    (Result : α → Prop) (part : Machine α) : Prop :=
  ∀ state, Invariant state → Ends limiter Invariant Result (part setup state)

namespace Keeps

variable {α β : Type} {setup : Setup} {limiter : Limiter} {Invariant : State → Prop}

theorem pure {Result : α → Prop} {value : α} (right : Result value) :
    Keeps setup limiter Invariant Result (Pure.pure value) :=
  fun _ kept => ⟨kept, right⟩

theorem bind {Result : α → Prop} {Next : β → Prop} {part : Machine α} {next : α → Machine β}
    (first : Keeps setup limiter Invariant Result part)
    (second : ∀ value, Result value → Keeps setup limiter Invariant Next (next value)) :
    Keeps setup limiter Invariant Next (part >>= next) := by
  intro state kept
  have middle := first state kept
  change Ends limiter Invariant Next (EStateM.bind (part setup) (fun value => next value setup) state)
  unfold EStateM.bind
  cases ran : part setup state with
  | ok value after =>
      rw [ran] at middle
      exact second value middle.2 after middle.1
  | error stop after =>
      rw [ran] at middle
      exact middle

theorem weaken {Result Weaker : α → Prop} {part : Machine α}
    (keeps : Keeps setup limiter Invariant Result part)
    (weaker : ∀ value, Result value → Weaker value) :
    Keeps setup limiter Invariant Weaker part := by
  intro state kept
  have after := keeps state kept
  cases ran : part setup state with
  | ok value last =>
      rw [ran] at after
      exact ⟨after.1, weaker _ after.2⟩
  | error stop last =>
      rw [ran] at after
      exact after

theorem throw {Result : α → Prop} {stop : Stop} (isJust : stop.IsJust limiter) :
    Keeps setup limiter Invariant Result (MonadExcept.throw stop : Machine α) :=
  fun _ kept => ⟨kept, isJust⟩

theorem get_bind {Result : α → Prop} {next : State → Machine α}
    (keeps : ∀ state, Invariant state → Keeps setup limiter Invariant Result (next state)) :
    Keeps setup limiter Invariant Result (get >>= next) :=
  fun state kept => keeps state kept state kept

theorem read_bind {Result : α → Prop} {next : Setup → Machine α}
    (keeps : Keeps setup limiter Invariant Result (next setup)) :
    Keeps setup limiter Invariant Result (read >>= next) :=
  fun state kept => keeps state kept

theorem modify {change : State → State}
    (keeps : ∀ state, Invariant state → Invariant (change state)) :
    Keeps setup limiter Invariant (fun _ => True) (modify change : Machine Unit) :=
  fun state kept => ⟨keeps state kept, trivial⟩

theorem lift {Result : α → Prop} {outcome : Except Fault α} (ordinary : IsOrdinary outcome)
    (right : ∀ value, outcome = .ok value → Result value) :
    Keeps setup limiter Invariant Result (Machine.lift outcome) := by
  cases outcome with
  | ok value => exact pure (right value rfl)
  | error fault => exact throw (Stop.isJust_of_not_isFatal (ordinary _ rfl))

theorem guarded {guard : Guard} {statement : Machine Flow}
    (keeps : Keeps setup limiter Invariant (fun _ => True) statement)
    (counts : Keeps setup limiter Invariant (fun _ => True) countFault) :
    Keeps setup limiter Invariant (fun _ => True) (Machine.guarded guard statement) := by
  intro state kept
  have after := keeps state kept
  unfold Machine.guarded
  cases ran : statement setup state with
  | ok flow next =>
      rw [ran] at after
      exact after
  | error stop next =>
      rw [ran] at after
      cases stop with
      | halt halt => exact after
      | fault fault =>
          have counted := counts next after.1
          dsimp only
          cases ranToo : countFault setup next with
          | error stop last =>
              rw [ranToo] at counted
              exact counted
          | ok value last =>
              rw [ranToo] at counted
              cases guard <;> exact counted

end Keeps

/-! ## Confined states -/

/-- What a run leaves alone: the lists and maps in reserve, and the values of the variables that it
started with, except for the assigned ones. -/
structure Surroundings where
  reserve : Reserve
  store : Std.TreeMap String Value
  assigned : String → Prop

/-- A state of a run that has left its surroundings alone and refers to nothing in reserve. Of the
limiter only the ticks have changed, and `inFunction` says whether a function is running. -/
structure Confined (around : Surroundings) (limiter : Limiter) (inFunction : Bool) (state : State) :
    Prop where
  heap : around.reserve.Separates state.heap
  store : ∀ name value, state.store.get? name = some value → around.reserve.IsApart value
  locals : ∀ locals, state.locals = some locals → ∀ name value,
    locals.values.get? name = some value → around.reserve.IsApart value
  level : state.locals.isSome = inFunction
  kept : ∀ name, ¬ around.assigned name → state.store.get? name = around.store.get? name
  limiter : state.limiter = { limiter with ticks := state.limiter.ticks }

section

variable {around : Surroundings} {limiter : Limiter} {inFunction : Bool} {setup : Setup}

abbrev Confines {α : Type} (around : Surroundings) (limiter : Limiter) (inFunction : Bool)
    (setup : Setup) (Result : α → Prop) (part : Machine α) : Prop :=
  Keeps setup limiter (Confined around limiter inFunction) Result part

theorem Confined.exhausts {state : State} (confined : Confined around limiter inFunction state)
    {fault : Fault} (exhausts : fault.Exhausts state.limiter) : fault.Exhausts limiter := by
  rw [confined.limiter] at exhausts
  exact exhausts

theorem confines_tick :
    Confines around limiter inFunction setup (fun _ => True) tick := by
  intro state confined
  unfold tick
  dsimp only
  have ticked : Confined around limiter inFunction
      { state with limiter := state.limiter.tick.2 } := by
    refine { confined with limiter := ?_ }
    simp only [Limiter.tick]
    rw [confined.limiter]
  split
  · exact ⟨ticked, trivial⟩
  · rename_i fails
    exact ⟨ticked, Stop.isJust_ofFault fun _ =>
      confined.exhausts (Limiter.exhausts_of_tick fails)⟩

theorem confines_countIteration :
    Confines around limiter inFunction setup (fun _ => True) countIteration := by
  refine Keeps.bind (Keeps.modify fun state confined => { confined with }) fun _ _ => ?_
  refine Keeps.read_bind (Keeps.get_bind fun state _ => ?_)
  split
  · have stops : Keeps setup limiter (Confined around limiter inFunction) (fun _ => True)
        (throw (.halt .runaway) : Machine PUnit) :=
      Keeps.throw trivial
    exact Keeps.bind stops fun _ _ => confines_tick
  · exact confines_tick

theorem confines_countFault :
    Confines around limiter inFunction setup (fun _ => True) countFault := by
  refine Keeps.bind (Keeps.modify fun state confined => { confined with }) fun _ _ => ?_
  refine Keeps.read_bind (Keeps.get_bind fun state _ => ?_)
  split
  · exact Keeps.throw trivial
  · exact Keeps.pure trivial

/-! ### Variables -/

theorem confines_load (name : String) :
    Confines around limiter inFunction setup around.reserve.IsApart (load name) := by
  intro state confined
  refine ⟨confined, ?_⟩
  have ofProgram : around.reserve.IsApart ((state.store.get? name).getD .null) := by
    cases found : state.store.get? name with
    | none => trivial
    | some value => exact confined.store name value found
  split
  · exact ofProgram
  · rename_i locals present
    split
    · exact confined.locals locals present name _ ‹_›
    · split
      · exact ofProgram
      · trivial

private theorem get?_insert_cases {table : Std.TreeMap String Value} {name other : String}
    {value found : Value} (present : (table.insert name value).get? other = some found) :
    found = value ∨ table.get? other = some found := by
  simp only [Std.TreeMap.get?_eq_getElem?, Std.TreeMap.getElem?_insert] at present ⊢
  split at present
  · cases present
    exact .inl rfl
  · exact .inr present

private theorem get?_insert_of_ne {table : Std.TreeMap String Value} {name other : String}
    {value : Value} (different : other ≠ name) :
    (table.insert name value).get? other = table.get? other := by
  simp only [Std.TreeMap.get?_eq_getElem?, Std.TreeMap.getElem?_insert,
    Std.LawfulEqCmp.compare_eq_iff_eq]
  rw [if_neg (Ne.symm different)]

theorem Confined.insertInStore {state : State} (confined : Confined around limiter inFunction state)
    {name : String} (isAssigned : around.assigned name) {value : Value}
    (apart : around.reserve.IsApart value) (types : Std.TreeMap String DeclaredType) :
    Confined around limiter inFunction
      { state with store := state.store.insert name value, types } := by
  refine { confined with store := ?_, kept := ?_ }
  · intro other found present
    rcases get?_insert_cases present with rfl | before
    · exact apart
    · exact confined.store other found before
  · intro other notAssigned
    have different : other ≠ name := fun same => notAssigned (same ▸ isAssigned)
    exact (get?_insert_of_ne different).trans (confined.kept other notAssigned)

theorem Confined.insertInLocals {state : State}
    (confined : Confined around limiter inFunction state) {locals : Locals}
    (present : state.locals = some locals) (name : String) {value : Value}
    (apart : around.reserve.IsApart value) (types : Std.TreeMap String DeclaredType) :
    Confined around limiter inFunction
      { state with locals := some { values := locals.values.insert name value, types } } := by
  refine { confined with locals := ?_, level := ?_ }
  · intro new same other found presentToo
    cases same
    rcases get?_insert_cases presentToo with rfl | before
    · exact apart
    · exact confined.locals locals present other found before
  · rw [← confined.level, present]
    rfl

theorem confines_store {name : String} (isAssigned : around.assigned name) {value : Value}
    (apart : around.reserve.IsApart value) :
    Confines around limiter inFunction setup (fun _ => True) (store name value) := by
  intro state confined
  have coerced (type : Option DeclaredType) :
      around.reserve.IsApart (state.heap.coerceTo type value) :=
    Reserve.Separates.isApart_coerceTo apart type
  unfold store
  cases present : state.locals with
  | none => exact ⟨confined.insertInStore isAssigned (coerced _) state.types, trivial⟩
  | some locals =>
      dsimp only
      split
      · exact ⟨confined.insertInStore isAssigned (coerced _) state.types, trivial⟩
      · exact ⟨confined.insertInLocals present name (coerced _) locals.types, trivial⟩

theorem confines_bindHere {name : String} (isAssigned : inFunction = false → around.assigned name)
    {value : Value} (apart : around.reserve.IsApart value) (type : Option DeclaredType) :
    Confines around limiter inFunction setup (fun _ => True) (bindHere name value type) := by
  refine Keeps.modify fun state confined => ?_
  split
  · rename_i locals present
    exact confined.insertInLocals present name apart _
  · rename_i absent
    have outside : inFunction = false := by
      rw [← confined.level, absent]
      rfl
    exact confined.insertInStore (isAssigned outside) apart _

theorem confines_onHeap {α : Type} {Result : α → Prop} {compute : Heap → Except Fault α × Heap}
    (ordinary : ∀ heap, IsOrdinary (compute heap).1)
    (keeps : ∀ heap, around.reserve.Separates heap → around.reserve.Separates (compute heap).2 ∧
      ∀ value, (compute heap).1 = .ok value → Result value) :
    Confines around limiter inFunction setup Result (onHeap compute) := by
  intro state confined
  have computed := keeps state.heap confined.heap
  have failsOrdinarily := ordinary state.heap
  unfold onHeap
  dsimp only
  split <;> rename_i outcome <;> rw [outcome] at computed failsOrdinarily
  · exact ⟨{ confined with heap := computed.1 }, computed.2 _ rfl⟩
  · exact ⟨{ confined with heap := computed.1 }, Stop.isJust_of_not_isFatal (failsOrdinarily _ rfl)⟩

theorem confines_memory (written : State → Memory) :
    Confines around limiter inFunction setup (fun _ => True)
      (modify fun state => { state with memory := written state } : Machine Unit) :=
  Keeps.modify fun _ confined => { confined with }

/-! ### Expressions -/

def CallsConfine (around : Surroundings) (limiter : Limiter) (inFunction : Bool) (setup : Setup)
    (calls : Calls) : Prop :=
  ∀ name arguments, (∀ value ∈ arguments, around.reserve.IsApart value) →
    Confines around limiter inFunction setup around.reserve.IsApart (calls name arguments)

variable {calls : Calls}

mutual

theorem confines_evaluate (confine : CallsConfine around limiter inFunction setup calls) :
    ∀ expression : LoopExpr,
      Confines around limiter inFunction setup around.reserve.IsApart (evaluate calls expression)
  | .constant value => by
      rw [evaluate]
      intro state confined
      have copied := confined.heap.copy value
      exact ⟨{ confined with heap := copied.1 }, copied.2⟩
  | .var name => by
      rw [evaluate]
      exact confines_load name
  | .unary operator operand => by
      rw [evaluate]
      refine Keeps.bind (confines_evaluate confine operand) fun value _ => Keeps.pure ?_
      exact Reserve.isApart_of_not_isReference (operator.isReference_apply value)
  | .binary operator left right => by
      rw [evaluate]
      refine Keeps.bind (confines_evaluate confine left) fun leftValue _ => ?_
      refine Keeps.bind (confines_evaluate confine right) fun rightValue _ => ?_
      refine Keeps.get_bind fun state _ =>
        Keeps.lift (operator.isOrdinary_apply _ _ _) fun value applied => ?_
      exact Reserve.isApart_of_not_isReference (operator.isReference_of_apply applied)
  | .index name indices => by
      rw [evaluate]
      refine Keeps.bind (confines_evaluateAll confine indices) fun values _ => ?_
      refine Keeps.bind (confines_load name) fun target apart => ?_
      refine Keeps.get_bind fun state confined =>
        Keeps.lift (isOrdinary_indexValue _ _ _) fun value found => ?_
      exact confined.heap.isApart_indexValue values apart found
  | .builtin _ routine arguments => by
      rw [evaluate]
      refine Keeps.bind (confines_evaluateAll confine arguments) fun values apart => ?_
      refine confines_onHeap (routine.isOrdinary_apply values) ?_
      intro heap separate
      exact separate.apply routine apart
  | .call name arguments => by
      rw [evaluate]
      refine Keeps.bind (confines_evaluateAll confine arguments) fun values apart => ?_
      exact confine name values apart
  | .writeMemory arguments => by
      rw [evaluate]
      refine Keeps.bind (confines_evaluateAll confine arguments) fun values _ => ?_
      refine Keeps.bind (confines_memory _) fun _ _ => ?_
      exact Keeps.pure trivial

theorem confines_evaluateAll (confine : CallsConfine around limiter inFunction setup calls) :
    ∀ expressions : List LoopExpr,
      Confines around limiter inFunction setup
        (fun values => ∀ value ∈ values, around.reserve.IsApart value)
        (evaluateAll calls expressions)
  | [] => by
      rw [evaluateAll]
      exact Keeps.pure (by simp)
  | expression :: rest => by
      rw [evaluateAll]
      refine Keeps.bind (confines_evaluate confine expression) fun value apart => ?_
      refine Keeps.bind (confines_evaluateAll confine rest) fun values apartToo => ?_
      exact Keeps.pure (List.forall_mem_cons.2 ⟨apart, apartToo⟩)

end

theorem confines_evaluateOptional (confine : CallsConfine around limiter inFunction setup calls)
    (expression : Option LoopExpr) :
    Confines around limiter inFunction setup
      (fun value => ∀ held, value = some held → around.reserve.IsApart held)
      (evaluateOptional calls expression) := by
  cases expression with
  | none => exact Keeps.pure fun _ impossible => by cases impossible
  | some expression =>
      refine Keeps.bind (confines_evaluate confine expression) fun value apart => ?_
      refine Keeps.pure fun held same => ?_
      cases same
      exact apart

/-! ### Simple statements -/

theorem confines_initialValue (confine : CallsConfine around limiter inFunction setup calls)
    (declaration : LoopDeclaration) :
    Confines around limiter inFunction setup around.reserve.IsApart
      (initialValue calls declaration) := by
  unfold initialValue
  split
  · exact Keeps.pure (Reserve.isApart_of_not_isReference (isReference_initial _))
  · refine Keeps.bind (confines_evaluateAll confine _) fun bounds _ => ?_
    refine confines_onHeap (fun heap => isOrdinary_newArray heap _ _) ?_
    intro heap separate
    exact separate.newArray _ _

theorem confines_declare (confine : CallsConfine around limiter inFunction setup calls)
    {declaration : LoopDeclaration}
    (isAssigned : inFunction = false → around.assigned declaration.name) :
    Confines around limiter inFunction setup (fun _ => True) (declare calls declaration) := by
  refine Keeps.get_bind fun state _ => ?_
  split
  · exact Keeps.pure trivial
  · refine Keeps.bind (confines_initialValue confine declaration) fun value apart => ?_
    exact confines_bindHere isAssigned apart declaration.type

theorem confines_declareAll (confine : CallsConfine around limiter inFunction setup calls) :
    ∀ {declarations : List LoopDeclaration},
      (inFunction = false → ∀ name ∈ declarations.map (·.name), around.assigned name) →
      Confines around limiter inFunction setup (fun _ => True) (declareAll calls declarations)
  | [], _ => Keeps.pure trivial
  | declaration :: rest, areAssigned => by
      refine Keeps.bind (confines_declare confine fun outside => ?_) fun _ _ => ?_
      · exact areAssigned outside _ (by simp)
      · exact confines_declareAll confine fun outside name member =>
          areAssigned outside name (by simp_all)

theorem confines_assignElement (confine : CallsConfine around limiter inFunction setup calls)
    (name : String) (indices : List LoopExpr) (value : LoopExpr) :
    Confines around limiter inFunction setup (fun _ => True)
      (assignElement calls name indices value) := by
  refine Keeps.bind (confines_evaluate confine value) fun value apart => ?_
  refine Keeps.bind (confines_evaluateAll confine indices) fun indices _ => ?_
  refine Keeps.bind (confines_load name) fun target targetApart => ?_
  refine Keeps.get_bind fun state _ => ?_
  refine Keeps.bind (Keeps.lift (isOrdinary_growingSlot _ _ _) fun slot found =>
    Reserve.Separates.slotIsApart_of_growingSlot targetApart found) fun slot outside => ?_
  exact Keeps.modify fun state confined =>
    { confined with heap := confined.heap.write outside apart }

theorem confines_overwriteText (confine : CallsConfine around limiter inFunction setup calls)
    {name : String} (isAssigned : around.assigned name) (start : LoopExpr)
    (length : Option LoopExpr) (value : LoopExpr) :
    Confines around limiter inFunction setup (fun _ => True)
      (overwriteText calls name start length value) := by
  refine Keeps.bind (confines_evaluate confine value) fun value _ => ?_
  refine Keeps.get_bind fun state _ => ?_
  refine Keeps.bind (confines_evaluate confine start) fun start _ => ?_
  refine Keeps.bind (confines_evaluateOptional confine length) fun length _ => ?_
  refine Keeps.bind (confines_load name) fun current _ => ?_
  refine Keeps.get_bind fun state _ => ?_
  refine Keeps.bind (Keeps.lift (TextFunction.isOrdinary_overwrite _ _ _ _) fun _ _ => trivial)
    fun updated _ => ?_
  exact confines_store isAssigned trivial

/-! ### Loops -/

theorem confines_advance {index : String} (isAssigned : around.assigned index) (step : Value) :
    Confines around limiter inFunction setup (fun _ => True) (advance index step) := by
  refine Keeps.bind (confines_load index) fun current _ => ?_
  refine Keeps.get_bind fun state _ => ?_
  refine Keeps.bind (Keeps.lift (BinaryOperator.isOrdinary_apply _ _ _ _) fun next applied =>
    BinaryOperator.isReference_of_apply applied) fun next plain => ?_
  exact confines_store isAssigned (Reserve.isApart_of_not_isReference plain)

theorem confines_rangeLoop {body : Machine Flow}
    (confinesBody : Confines around limiter inFunction setup (fun _ => True) body)
    {index : String} (isAssigned : around.assigned index) (finish step : Value)
    (descending : Bool) :
    ∀ left : Nat, Confines around limiter inFunction setup (fun _ => True)
      (rangeLoop body index finish step descending left)
  | 0 => Keeps.throw trivial
  | left + 1 => by
      refine Keeps.bind (confines_load index) fun current _ => ?_
      refine Keeps.get_bind fun state _ => ?_
      split
      · exact Keeps.pure trivial
      · refine Keeps.bind confines_countIteration fun _ _ => ?_
        refine Keeps.bind confinesBody fun flow _ => ?_
        split
        · refine Keeps.bind (confines_advance isAssigned step) fun _ _ => ?_
          exact confines_rangeLoop confinesBody isAssigned finish step descending left
        all_goals exact Keeps.pure trivial

theorem confines_eachLoop {body : Machine Flow}
    (confinesBody : Confines around limiter inFunction setup (fun _ => True) body)
    {index : String} (isAssigned : around.assigned index) :
    ∀ {items : List Value}, (∀ value ∈ items, around.reserve.IsApart value) →
      Confines around limiter inFunction setup (fun _ => True) (eachLoop body index items)
  | [], _ => Keeps.pure trivial
  | item :: rest, apart => by
      obtain ⟨itemApart, restApart⟩ := List.forall_mem_cons.1 apart
      refine Keeps.bind confines_countIteration fun _ _ => ?_
      refine Keeps.bind (confines_store isAssigned itemApart) fun _ _ => ?_
      refine Keeps.bind confinesBody fun flow _ => ?_
      split
      · exact confines_eachLoop confinesBody isAssigned restApart
      all_goals exact Keeps.pure trivial

theorem confines_goesOn (confine : CallsConfine around limiter inFunction setup calls)
    (condition : Option (LoopTest × LoopExpr)) :
    Confines around limiter inFunction setup (fun _ => True) (goesOn calls condition) := by
  unfold goesOn
  split
  · exact Keeps.pure trivial
  all_goals
    refine Keeps.bind (confines_evaluate confine _) fun value _ => ?_
    exact Keeps.get_bind fun state _ => Keeps.pure trivial

theorem confines_testWhen {condition : Machine Bool}
    (confinesCondition : Confines around limiter inFunction setup (fun _ => True) condition)
    (tested : Bool) :
    Confines around limiter inFunction setup (fun _ => True) (testWhen tested condition) := by
  unfold testWhen
  split
  · exact confinesCondition
  · exact Keeps.pure trivial

theorem confines_conditionalLoop {body : Machine Flow} {condition : Machine Bool}
    (confinesBody : Confines around limiter inFunction setup (fun _ => True) body)
    (confinesCondition : Confines around limiter inFunction setup (fun _ => True) condition)
    (testFirst : Bool) :
    ∀ left : Nat, Confines around limiter inFunction setup (fun _ => True)
      (conditionalLoop body condition testFirst left)
  | 0 => Keeps.throw trivial
  | left + 1 => by
      refine Keeps.bind (confines_testWhen confinesCondition testFirst) fun enters _ => ?_
      split
      · exact Keeps.pure trivial
      · refine Keeps.bind confines_countIteration fun _ _ => ?_
        refine Keeps.bind confinesBody fun flow _ => ?_
        split
        · refine Keeps.bind (confines_testWhen confinesCondition (!testFirst)) fun again _ => ?_
          split
          · exact Keeps.pure trivial
          · exact confines_conditionalLoop confinesBody confinesCondition testFirst left
        all_goals exact Keeps.pure trivial

/-! ### Statements -/

mutual

theorem confines_execute (confine : CallsConfine around limiter inFunction setup calls)
    (nested : Bool) (guard : Guard) : ∀ statement : LoopStatement,
      (∀ name ∈ statement.targets (!inFunction), around.assigned name) →
      Confines around limiter inFunction setup (fun _ => True)
        (execute calls nested guard statement)
  | .dim declarations, areAssigned => by
      rw [execute]
      refine Keeps.bind confines_tick fun _ _ => ?_
      refine Keeps.bind (confines_declareAll confine fun outside name member => ?_) fun _ _ => ?_
      · exact areAssigned name (by simpa [LoopStatement.targets, outside] using member)
      · exact Keeps.pure trivial
  | .assign name value, areAssigned => by
      rw [execute]
      refine Keeps.bind confines_tick fun _ _ => ?_
      refine Keeps.bind (confines_evaluate confine value) fun value apart => ?_
      refine Keeps.bind (confines_store ?_ apart) fun _ _ => Keeps.pure trivial
      exact areAssigned name (by simp [LoopStatement.targets])
  | .assignElement name indices value, _ => by
      rw [execute]
      refine Keeps.bind confines_tick fun _ _ => ?_
      refine Keeps.bind (confines_assignElement confine name indices value) fun _ _ => ?_
      exact Keeps.pure trivial
  | .overwrite name start length value, areAssigned => by
      rw [execute]
      refine Keeps.bind confines_tick fun _ _ => ?_
      refine Keeps.bind (confines_overwriteText confine ?_ start length value) fun _ _ => ?_
      · exact areAssigned name (by simp [LoopStatement.targets])
      · exact Keeps.pure trivial
  | .evaluate expression, _ => by
      rw [execute]
      refine Keeps.bind confines_tick fun _ _ => ?_
      exact Keeps.bind (confines_evaluate confine expression) fun _ _ => Keeps.pure trivial
  | .branch arms otherwise, areAssigned => by
      rw [execute]
      refine Keeps.bind confines_tick fun _ _ => ?_
      refine confines_executeArms confine nested guard ?_ arms fun name member => ?_
      · refine confines_executeBlock confine nested guard otherwise fun name member => ?_
        exact areAssigned name (by simp [LoopStatement.targets, member])
      · exact areAssigned name (by simp [LoopStatement.targets, member])
  | .forRange index start finish step body, areAssigned => by
      have indexAssigned : around.assigned index :=
        areAssigned index (by simp [LoopStatement.targets])
      have confinesBody : Confines around limiter inFunction setup (fun _ => True)
          (executeBlock calls true (bodyGuard nested) body) :=
        confines_executeBlock confine true (bodyGuard nested) body fun name member =>
          areAssigned name (by simp [LoopStatement.targets, member])
      rw [execute]
      refine Keeps.bind confines_tick fun _ _ => ?_
      refine Keeps.bind (confines_evaluate confine start) fun start _ => ?_
      refine Keeps.bind (confines_evaluate confine finish) fun finish _ => ?_
      refine Keeps.bind (confines_evaluateOptional confine step) fun step _ => ?_
      have plain : around.reserve.IsApart start.toNumber :=
        Reserve.isApart_of_not_isReference (Value.isReference_toNumber start)
      refine Keeps.bind (confines_store indexAssigned plain) fun _ _ => ?_
      exact Keeps.read_bind (confines_rangeLoop confinesBody indexAssigned _ _ _ _)
  | .forEach index items body, areAssigned => by
      have confinesBody : Confines around limiter inFunction setup (fun _ => True)
          (executeBlock calls true (bodyGuard nested) body) :=
        confines_executeBlock confine true (bodyGuard nested) body fun name member =>
          areAssigned name (by simp [LoopStatement.targets, member])
      rw [execute]
      refine Keeps.bind confines_tick fun _ _ => ?_
      refine Keeps.bind (confines_evaluate confine items) fun container apart => ?_
      refine Keeps.get_bind fun state confined => ?_
      refine Keeps.bind (Keeps.lift (isOrdinary_iterationItems _ _) fun items listed =>
        confined.heap.isApart_of_iterationItems apart listed) fun items itemsApart => ?_
      exact confines_eachLoop confinesBody
        (areAssigned index (by simp [LoopStatement.targets])) itemsApart
  | .conditional condition testFirst body, areAssigned => by
      have confinesBody : Confines around limiter inFunction setup (fun _ => True)
          (executeBlock calls true (bodyGuard nested) body) :=
        confines_executeBlock confine true (bodyGuard nested) body fun name member =>
          areAssigned name (by simpa [LoopStatement.targets] using member)
      rw [execute]
      refine Keeps.bind confines_tick fun _ _ => Keeps.read_bind ?_
      exact confines_conditionalLoop confinesBody (confines_goesOn confine condition) testFirst _
  | .break kind, _ => by
      rw [execute]
      exact Keeps.bind confines_tick fun _ _ => Keeps.pure trivial
  | .return, _ => by
      rw [execute]
      exact Keeps.bind confines_tick fun _ _ => Keeps.pure trivial

theorem confines_executeArms (confine : CallsConfine around limiter inFunction setup calls)
    (nested : Bool) (guard : Guard) {otherwise : Machine Flow}
    (confinesOtherwise : Confines around limiter inFunction setup (fun _ => True) otherwise) :
    ∀ arms : List LoopArm,
      (∀ name ∈ LoopStatement.targetsOfArms (!inFunction) arms, around.assigned name) →
      Confines around limiter inFunction setup (fun _ => True)
        (executeArms calls nested guard otherwise arms)
  | [], _ => by
      rw [executeArms]
      exact confinesOtherwise
  | arm :: rest, areAssigned => by
      rw [executeArms]
      refine confines_executeArm confine nested guard ?_ arm fun name member => ?_
      · refine confines_executeArms confine nested guard confinesOtherwise rest
          fun name member => ?_
        exact areAssigned name (by simp [LoopStatement.targetsOfArms, member])
      · exact areAssigned name (by simp [LoopStatement.targetsOfArms, member])

theorem confines_executeArm (confine : CallsConfine around limiter inFunction setup calls)
    (nested : Bool) (guard : Guard) {otherwise : Machine Flow}
    (confinesOtherwise : Confines around limiter inFunction setup (fun _ => True) otherwise) :
    ∀ arm : LoopArm,
      (∀ name ∈ LoopStatement.targetsOfArm (!inFunction) arm, around.assigned name) →
      Confines around limiter inFunction setup (fun _ => True)
        (executeArm calls nested guard otherwise arm)
  | .mk condition body, areAssigned => by
      rw [executeArm]
      refine Keeps.bind (confines_evaluate confine condition) fun value _ => ?_
      refine Keeps.get_bind fun state _ => ?_
      split
      · refine confines_executeBlock confine nested guard body fun name member => ?_
        exact areAssigned name (by simpa [LoopStatement.targetsOfArm] using member)
      · exact confinesOtherwise

theorem confines_executeBlock (confine : CallsConfine around limiter inFunction setup calls)
    (nested : Bool) (guard : Guard) : ∀ statements : List LoopStatement,
      (∀ name ∈ LoopStatement.targetsOfBlock (!inFunction) statements,
        around.assigned name) →
      Confines around limiter inFunction setup (fun _ => True)
        (executeBlock calls nested guard statements)
  | [], _ => by
      rw [executeBlock]
      exact Keeps.pure trivial
  | statement :: rest, areAssigned => by
      rw [executeBlock]
      refine Keeps.bind (Keeps.guarded ?_ confines_countFault) fun flow _ => ?_
      · refine confines_execute confine nested guard statement fun name member => ?_
        exact areAssigned name (by simp [LoopStatement.targetsOfBlock, member])
      split
      · refine confines_executeBlock confine nested guard rest fun name member => ?_
        exact areAssigned name (by simp [LoopStatement.targetsOfBlock, member])
      · exact Keeps.pure trivial

end

/-! ### Calls -/

theorem confines_bindParameters :
    ∀ (parameters : List (String × Option DeclaredType)) {arguments : List Value},
      (∀ value ∈ arguments, around.reserve.IsApart value) →
      Confines around limiter true setup (fun _ => True) (bindParameters parameters arguments)
  | [], _, _ => Keeps.pure trivial
  | (name, type) :: rest, arguments, apart => by
      have headApart : around.reserve.IsApart (arguments.headD .null) := by
        cases arguments with
        | nil => trivial
        | cons first others => exact apart first (by simp)
      refine Keeps.get_bind fun state confined => ?_
      refine Keeps.bind (confines_bindHere (by simp)
        (Reserve.Separates.isApart_coerceTo headApart type) type) fun _ _ => ?_
      exact confines_bindParameters rest fun value member =>
        apart value (List.mem_of_mem_tail member)

theorem confines_bindResult (function : LoopFunction) :
    Confines around limiter true setup (fun _ => True) (bindResult function) := by
  unfold bindResult
  split
  · exact confines_bindHere (by simp)
      (Reserve.isApart_of_not_isReference (isReference_initial _)) function.returnType
  · exact Keeps.pure trivial

theorem confines_resultOf (function : LoopFunction) :
    Confines around limiter true setup around.reserve.IsApart (resultOf function) := by
  intro state confined
  refine ⟨confined, ?_⟩
  split
  · cases present : state.locals with
    | none => trivial
    | some locals =>
        change around.reserve.IsApart ((locals.values.get? function.name).getD .null)
        cases found : locals.values.get? function.name with
        | none => trivial
        | some value => exact confined.locals locals present _ value found
  · trivial

theorem confines_runFunction (confine : CallsConfine around limiter true setup calls)
    {function : LoopFunction}
    (areAssigned : ∀ name ∈ LoopStatement.targetsOfBlock false function.body,
      around.assigned name)
    {arguments : List Value} (apart : ∀ value ∈ arguments, around.reserve.IsApart value) :
    Confines around limiter true setup around.reserve.IsApart
      (runFunction calls function arguments) := by
  refine Keeps.bind (confines_bindResult function) fun _ _ => ?_
  refine Keeps.bind (confines_bindParameters function.parameters apart) fun _ _ => ?_
  refine Keeps.bind (confines_executeBlock confine true .skip function.body areAssigned)
    fun _ _ => ?_
  exact confines_resultOf function

def FunctionsAssign (around : Surroundings) (program : LoopProgram) : Prop :=
  ∀ name function, program.functions.get? name = some function →
    ∀ target ∈ LoopStatement.targetsOfBlock false function.body, around.assigned target

theorem leave_of_entered {limiter entered after : Limiter}
    (enters : limiter.enter = .ok entered)
    (ticked : after = { entered with ticks := after.ticks }) :
    after.leave = { limiter with ticks := after.ticks } := by
  unfold Limiter.enter at enters
  dsimp only at enters
  split at enters
  · cases enters
  · cases enters
    rw [ticked]
    simp [Limiter.leave]

theorem confines_callFunction (areAssigned : FunctionsAssign around setup.program) :
    ∀ (left : Nat) (limiter : Limiter) (inFunction : Bool),
      limiter.maxDepth ≤ limiter.depth + left →
      CallsConfine around limiter inFunction setup (callFunction left)
  | left, limiter, inFunction, enough, name, arguments, apart => by
      intro state confined
      unfold callFunction
      split
      · exact ⟨confined, Stop.isJust_of_not_isFatal rfl⟩
      · rename_i function found
        have sameDepth : state.limiter.depth = limiter.depth := congrArg (·.depth) confined.limiter
        have sameMaxDepth : state.limiter.maxDepth = limiter.maxDepth :=
          congrArg (·.maxDepth) confined.limiter
        cases left with
        | zero => exact ⟨confined, confined.exhausts (Limiter.exhausts_next (by omega))⟩
        | succ left =>
            dsimp only
            cases enters : state.limiter.enter with
            | error fault =>
                exact ⟨confined, Stop.isJust_ofFault fun _ =>
                  confined.exhausts (Limiter.exhausts_of_enter enters)⟩
            | ok entered =>
                have stillEnough : entered.maxDepth ≤ entered.depth + left := by
                  rw [(Limiter.eq_of_enter enters).1]
                  dsimp only
                  omega
                have inside : Confined around entered true
                    { state with limiter := entered, locals := some {} } := by
                  refine { confined with locals := ?_, level := rfl, limiter := rfl }
                  intro locals same other value present
                  cases same
                  simp at present
                have run := confines_runFunction
                  (confines_callFunction areAssigned left entered true stillEnough)
                  (areAssigned name function found) apart _ inside
                -- The variables and the depth of the caller come back however the call ended.
                have back {after : State} (ended : Confined around entered true after) :
                    Confined around limiter inFunction
                      { after with locals := state.locals, limiter := after.limiter.leave } := by
                  have depth := leave_of_entered enters ended.limiter
                  rw [confined.limiter] at depth
                  refine ⟨ended.heap, ended.store, confined.locals, confined.level, ended.kept, ?_⟩
                  exact depth
                dsimp only
                split <;> rename_i ran <;> rw [ran] at run
                · exact ⟨back run.1, run.2⟩
                · exact ⟨back run.1, run.2.imp fun _ exhausts =>
                    confined.exhausts (Limiter.exhausts_of_entered enters exhausts)⟩

end

/-! ## Runs -/

theorem confined_start (program : LoopProgram) (heap : Heap) (limiter : Limiter)
    (assigned : String → Prop) :
    Confined ⟨heap.reserve, (start program heap limiter).store, assigned⟩ limiter false
      (start program heap limiter) := by
  have built := Reserve.Separates.buildAll heap.reserve
    (program.prologue.toList.map fun entry => heap.contents entry.2)
    (Reserve.Separates.refl heap) #[] (by simp)
  refine ⟨built.1, ?_, ?_, rfl, fun _ _ => rfl, rfl⟩
  · intro name value found
    exact built.2 _ (Array.mem_toList_iff.1 (List.of_mem_zip (mem_of_get?_ofList found)).2)
  · intro locals impossible
    cases impossible

theorem ends_execute (program : LoopProgram) (policy : Policy) (heap : Heap) (limiter : Limiter)
    (assigned : String → Prop) (areAssigned : ∀ name ∈ program.body.targets true, assigned name)
    (functionsAssign :
      FunctionsAssign ⟨heap.reserve, (start program heap limiter).store, assigned⟩ program) :
    Ends limiter (Confined ⟨heap.reserve, (start program heap limiter).store, assigned⟩ limiter false)
      (fun _ => True)
      (execute (callFunction (limiter.maxDepth - limiter.depth)) false .skip program.body
        ⟨program, policy.maxCompiledIterations, policy.maxLoopFaults⟩
        (start program heap limiter)) := by
  have calls := @confines_callFunction _
    ⟨program, policy.maxCompiledIterations, policy.maxLoopFaults⟩ functionsAssign
    (limiter.maxDepth - limiter.depth) limiter false (by omega)
  exact confines_execute calls false .skip program.body areAssigned _
    (confined_start program heap limiter assigned)

/-- However a run ends, it has left its surroundings alone. -/
theorem confined_run (program : LoopProgram) (policy : Policy) (heap : Heap) (limiter : Limiter)
    (assigned : String → Prop) (areAssigned : ∀ name ∈ program.body.targets true, assigned name)
    (functionsAssign :
      FunctionsAssign ⟨heap.reserve, (start program heap limiter).store, assigned⟩ program) :
    Confined ⟨heap.reserve, (start program heap limiter).store, assigned⟩ limiter false
      (run program policy heap limiter).2 := by
  have ended := ends_execute program policy heap limiter assigned areAssigned functionsAssign
  unfold run
  dsimp only
  split <;> rename_i ran <;> rw [ran] at ended
  · exact ended.1
  · exact ended.1
  · exact ended.1

theorem exhausts_of_run {program : LoopProgram} {policy : Policy} {heap : Heap} {limiter : Limiter}
    {fault : Fault} (ran : (run program policy heap limiter).1 = .error (.fatal fault)) :
    fault.Exhausts limiter := by
  have ended := ends_execute program policy heap limiter (fun _ => True) (fun _ _ => trivial)
    (fun _ _ _ _ _ => trivial)
  unfold run at ran
  dsimp only at ran
  split at ran <;> rename_i executed <;> rw [executed] at ended
  · cases ran
  · cases ran
    exact ended.2
  · cases ran

theorem isFatal_of_run {program : LoopProgram} {policy : Policy} {heap : Heap} {limiter : Limiter}
    {fault : Fault} (ran : (run program policy heap limiter).1 = .error (.fatal fault)) :
    fault.isFatal = true :=
  (exhausts_of_run ran).1

end Machine

end MacroSandbox
