import MacroSandbox.Proofs.InterpretedDeclarations

/-! Declarations in loop programs.

The machine of loop programs resets a variable only if it is not bound yet, so it keeps what a variable
holds, and the first of several declarations of a name counts where in the interpreter the last one
does. Main statement: `declarations_hold_same`, by which both engines do the same exactly where that
makes no difference. -/

namespace MacroSandbox

open LiteralDeclaration

/-! ## In the machine -/

namespace Machine

def valueHere? (state : State) (name : String) : Option Value :=
  match state.locals with
  | some locals => locals.values.get? name
  | none => state.store.get? name

variable {calls : Calls} {setup : Setup} {state : State} {declaration : LiteralDeclaration}

theorem isBoundHere_eq (state : State) (name : String) :
    isBoundHere state name = (valueHere? state name).isSome := by
  unfold isBoundHere valueHere?
  cases state.locals <;> simp

theorem bindHere_eq (setup : Setup) (state : State) (name : String) (value : Value)
    (type : Option DeclaredType) :
    ∃ later : State, bindHere name value type setup state = .ok () later ∧
      later.heap = state.heap ∧
      ∀ other, valueHere? later other =
        if name = other then some value else valueHere? state other := by
  refine ⟨_, rfl, ?_, fun other => ?_⟩
  · dsimp only
    split <;> rfl
  · unfold valueHere?
    cases locals : state.locals <;> simp [locals, Std.TreeMap.getElem?_insert]

theorem evaluateAll_constants (calls : Calls) (setup : Setup) (state : State) (bounds : List Int64) :
    evaluateAll calls (bounds.map fun bound => .constant (.integer bound)) setup state =
      .ok (bounds.map .integer) state := by
  induction bounds with
  | nil => rfl
  | cons bound rest induction =>
      have constant : evaluate calls (.constant (.integer bound)) setup state =
          .ok (.integer bound) state := by
        have isScalar : (Value.integer bound).isReference = false := rfl
        rw [evaluate]
        simp only [Heap.copy, Heap.build_contents isScalar]
      rw [List.map_cons, evaluateAll, Running.run_bind, constant]
      dsimp only
      rw [Running.run_bind, induction]
      rfl

theorem initialValue_lowered (calls : Calls) (setup : Setup) (state : State)
    (declaration : LiteralDeclaration) :
    initialValue calls declaration.lowered setup state =
      match declaration.refusal? with
      | some fault => .error (Stop.ofFault fault) state
      | none => .ok (declaration.initial.build state.heap).1
          { state with heap := (declaration.initial.build state.heap).2 } := by
  have values := evaluateAll_constants calls setup state declaration.bounds
  unfold initialValue lowered
  dsimp only
  cases bounds : declaration.bounds with
  | nil =>
      obtain ⟨made, built⟩ := build_initial_of_scalar bounds state.heap
      rw [made, built]
      rfl
  | cons bound rest =>
      rw [bounds] at values
      change (evaluateAll calls (List.map _ (bound :: rest)) >>= _) setup state = _
      rw [Running.run_bind, values, ← bounds]
      simp only [onHeap, dimensions_eq, newArray_eq]
      cases declaration.refusal? <;> rfl

theorem declareAll_refused (calls : Calls) (setup : Setup) {fault : Fault}
    (unbound : valueHere? state declaration.key = none) (refused : declaration.refusal? = some fault)
    (rest : List LoopDeclaration) :
    declareAll calls (declaration.lowered :: rest) setup state =
      .error (Stop.ofFault fault) state := by
  have notBound : isBoundHere state declaration.lowered.name = false := by
    rw [isBoundHere_eq]
    exact Option.isSome_eq_false_iff.2 (Option.isNone_iff_eq_none.2 unbound)
  simp only [declareAll, declare, Running.run_bind, Running.run_get, notBound, Bool.false_eq_true,
    if_false, initialValue_lowered, refused]

theorem declareAll_admitted (calls : Calls) (setup : Setup) (state : State)
    (admitted : declaration.refusal? = none) :
    ∃ later : State,
      (∀ rest, declareAll calls (declaration.lowered :: rest) setup state =
        declareAll calls rest setup later) ∧
      ∀ name contents, state.heap.HoldsOptional contents (valueHere? state name) →
        later.heap.HoldsOptional
          (contents.or (if declaration.key = name then some declaration.initial else none))
          (valueHere? later name) := by
  have boundName : isBoundHere state declaration.lowered.name =
      (valueHere? state declaration.key).isSome :=
    isBoundHere_eq state declaration.key
  cases bound : (valueHere? state declaration.key).isSome with
  | true =>
      -- The declaration is skipped, and what the variable holds outweighs its first value.
      refine ⟨state, fun rest => ?_, fun name contents holds => ?_⟩
      · simp only [declareAll, declare, Running.run_bind, Running.run_get, boundName, bound, if_true,
          Running.run_pure]
      · split
        · rename_i same
          obtain ⟨datum, isHeld⟩ := Option.isSome_iff_exists.1 (holds.isSome_eq.trans (same ▸ bound))
          rw [isHeld] at holds ⊢
          exact holds
        · rwa [Option.or_none]
  | false =>
      have built := Heap.holdsDatum_build declaration.isSound_initial state.heap
      have keeps := @Heap.KeepsBut.build none declaration.initial state.heap
      obtain ⟨later, binds, sameHeap, values⟩ := bindHere_eq setup
        { state with heap := (declaration.initial.build state.heap).2 } declaration.lowered.name
        (declaration.initial.build state.heap).1 declaration.lowered.type
      refine ⟨later, fun rest => ?_, fun name contents holds => ?_⟩
      · simp only [declareAll, declare, Running.run_bind, Running.run_get, boundName, bound,
          Bool.false_eq_true, if_false, initialValue_lowered, admitted, binds]
      · rw [sameHeap, values]
        rcases Decidable.em (declaration.key = name) with same | differs
        · have unheld : contents = none := by
            rw [← Option.isSome_eq_false_iff.trans Option.isNone_iff_eq_none, holds.isSome_eq, ← same,
              bound]
          rw [unheld, if_pos same, if_pos (show declaration.lowered.name = name from same)]
          exact .some built
        · rw [if_neg differs, if_neg (show ¬declaration.lowered.name = name from differs),
            Option.or_none]
          exact holds.of_keepsBut keeps

/-- After declarations a variable has what it had before, or else what the first one of its name binds
it to. -/
def State.Binds (declarations : List LiteralDeclaration) (before after : State) : Prop :=
  ∀ name contents, before.heap.HoldsOptional contents (valueHere? before name) →
    after.heap.HoldsOptional (contents.or (first? name declarations)) (valueHere? after name)

theorem declareAll_append (calls : Calls) (setup : Setup) (state : State)
    {declarations : List LiteralDeclaration}
    (admitted : ∀ declaration ∈ declarations, declaration.refusal? = none) :
    ∃ later : State,
      (∀ rest, declareAll calls (declarations.map lowered ++ rest) setup state =
        declareAll calls rest setup later) ∧
      state.Binds declarations later := by
  induction declarations generalizing state with
  | nil => exact ⟨state, fun _ => rfl, fun _ contents holds => by rwa [first?, Option.or_none]⟩
  | cons declaration rest induction =>
      obtain ⟨next, declared, nextHeld⟩ :=
        declareAll_admitted calls setup state (admitted declaration List.mem_cons_self)
      obtain ⟨later, more, held⟩ :=
        induction next fun other member => admitted other (List.mem_cons_of_mem _ member)
      refine ⟨later, fun further => (declared _).trans (more further), fun name contents holds => ?_⟩
      have both := held name _ (nextHeld name contents holds)
      rw [Option.or_assoc] at both
      rw [first?]
      split
      · rename_i same
        rwa [if_pos same, Option.some_or] at both
      · rename_i differs
        rwa [if_neg differs, Option.none_or] at both

theorem execute_dim (calls : Calls) (nested : Bool) (guard : Guard) (setup : Setup)
    (limits : state.limiter.depth ≤ state.limiter.maxDepth ∧ state.limiter.deadline = none)
    (declarations : List LoopDeclaration) :
    ∃ ticked : State, ticked.heap = state.heap ∧ valueHere? ticked = valueHere? state ∧
      execute calls nested guard (.dim declarations) setup state =
        match declareAll calls declarations setup ticked with
        | .ok () later => .ok .normal later
        | .error stop later => .error stop later := by
  refine ⟨{ state with limiter := { state.limiter with ticks := state.limiter.ticks + 1 } },
    rfl, rfl, ?_⟩
  have ticked : tick setup state = .ok ()
      { state with limiter := { state.limiter with ticks := state.limiter.ticks + 1 } } := by
    simp only [tick, Limiter.tick_eq limits]
  rw [execute, Running.run_bind, ticked]
  dsimp only
  rw [Running.run_bind]
  cases declareAll calls declarations setup _ <;> rfl

theorem execute_admitted {declarations : List LiteralDeclaration} (calls : Calls) (nested : Bool)
    (guard : Guard) (setup : Setup)
    (limits : state.limiter.depth ≤ state.limiter.maxDepth ∧ state.limiter.deadline = none)
    (admitted : ∀ declaration ∈ declarations, declaration.refusal? = none) :
    ∃ later, execute calls nested guard (.dim (declarations.map lowered)) setup state =
        .ok .normal later ∧
      state.Binds declarations later := by
  obtain ⟨ticked, sameHeap, sameValues, executed⟩ :=
    execute_dim calls nested guard setup limits (declarations.map lowered)
  obtain ⟨later, declared, held⟩ := declareAll_append calls setup ticked admitted
  have declaredAll := declared []
  rw [List.append_nil] at declaredAll
  unfold State.Binds at held
  rw [sameHeap, sameValues] at held
  refine ⟨later, ?_, held⟩
  rw [executed, declaredAll]
  rfl

theorem execute_refused {declarations : List LiteralDeclaration} {refused : LiteralDeclaration}
    {fault : Fault} (calls : Calls) (nested : Bool) (guard : Guard) (setup : Setup)
    (limits : state.limiter.depth ≤ state.limiter.maxDepth ∧ state.limiter.deadline = none)
    (admitted : ∀ declaration ∈ declarations, declaration.refusal? = none)
    (isRefused : refused.refusal? = some fault) (unbound : valueHere? state refused.key = none)
    (undeclared : first? refused.key declarations = none) (rest : List LiteralDeclaration) :
    ∃ later, execute calls nested guard (.dim ((declarations ++ refused :: rest).map lowered)) setup
        state = .error (Stop.ofFault fault) later ∧
      state.Binds declarations later := by
  obtain ⟨ticked, sameHeap, sameValues, executed⟩ := execute_dim calls nested guard setup limits
    ((declarations ++ refused :: rest).map lowered)
  obtain ⟨later, declared, held⟩ := declareAll_append calls setup ticked admitted
  unfold State.Binds at held
  rw [sameHeap, sameValues] at held
  have stillUnbound : valueHere? later refused.key = none := by
    have stays := held refused.key none (unbound ▸ .none)
    rw [Option.none_or, undeclared] at stays
    exact stays.eq_none
  refine ⟨later, ?_, held⟩
  rw [executed, List.map_append, declared, List.map_cons,
    declareAll_refused calls setup stillUnbound isRefused]

end Machine

/-! ## In both -/

def HoldSame (state : State) (machine : Machine.State) (name : String) : Prop :=
  ∃ contents, state.heap.HoldsOptional contents (state.valueHere? name) ∧
    machine.heap.HoldsOptional contents (Machine.valueHere? machine name)

variable {state : State} {machine : Machine.State}

theorem holdSame_iff {name : String} {contents others : Option Datum}
    (holds : state.heap.HoldsOptional contents (state.valueHere? name))
    (machineHolds : machine.heap.HoldsOptional others (Machine.valueHere? machine name)) :
    HoldSame state machine name ↔ contents = others := by
  constructor
  · rintro ⟨same, sameHeld, machineSameHeld⟩
    rw [holds.unique sameHeld, machineHolds.unique machineSameHeld]
  · rintro rfl
    exact ⟨contents, holds, machineHolds⟩

section

variable {declarations : List LiteralDeclaration} {before : String → Option Datum}

/-- What both sides hold for a name after declarations: the interpreter has reset it, the machine has
kept it. -/
def HoldDeclared (declarations : List LiteralDeclaration) (before : String → Option Datum)
    (types : String → Option DeclaredType) (state : State) (machine : Machine.State)
    (name : String) : Prop :=
  state.heap.HoldsOptional ((reset? name (types name) declarations).or (before name))
      (state.valueHere? name) ∧
    machine.heap.HoldsOptional ((before name).or (first? name declarations))
      (Machine.valueHere? machine name)

theorem HoldDeclared.holdSame {types : String → Option DeclaredType} {name : String}
    (held : HoldDeclared declarations before types state machine name)
    (new : AreNew declarations before types) (unbound : before name = none) :
    HoldSame state machine name := by
  refine (holdSame_iff held.1 held.2).2 ?_
  rw [unbound, Option.or_none, Option.none_or, new.reset?_eq_first?]

variable (environment : Environment) (calls : Machine.Calls) (setup : Machine.Setup)
  (nested : Bool) (guard : Machine.Guard)
  (limits : state.run.limiter.depth ≤ state.run.limiter.maxDepth ∧
    state.run.limiter.expired = false)
  (machineLimits : machine.limiter.depth ≤ machine.limiter.maxDepth ∧
    machine.limiter.deadline = none)

include limits machineLimits

theorem exists_admitted (simple : ∀ declaration ∈ declarations, declaration.HasSimpleName)
    (held : ∀ declaration ∈ declarations,
      state.heap.HoldsOptional (before declaration.key) (state.valueHere? declaration.key))
    (machineHeld : ∀ declaration ∈ declarations, machine.heap.HoldsOptional
      (before declaration.key) (Machine.valueHere? machine declaration.key))
    (admitted : ∀ declaration ∈ declarations, declaration.refusal? = none) :
    ∃ later machineLater,
      Eval.statement (.dim (declarations.map source)) environment state = .ok .continue later ∧
        Machine.execute calls nested guard (.dim (declarations.map lowered)) setup machine =
          .ok .normal machineLater ∧
        ∀ declaration ∈ declarations, HoldDeclared declarations before state.frame.types.get? later
          machineLater declaration.key := by
  obtain ⟨later, runs, resets⟩ := Eval.statement_admitted environment limits simple admitted
  obtain ⟨machineLater, machineRuns, keeps⟩ :=
    Machine.execute_admitted calls nested guard setup machineLimits admitted
  refine ⟨later, machineLater, runs, machineRuns, fun declaration member => ⟨?_, ?_⟩⟩
  · exact resets _ _ (Text.asciiLower_asciiLower declaration.name) (held declaration member)
  · exact keeps _ _ (machineHeld declaration member)

/-- Declarations of new names of which one is refused are run by both sides up to that one, so the
later names stay unbound on both. -/
theorem exists_refused {admitted rest : List LiteralDeclaration} {refused : LiteralDeclaration}
    {fault : Fault} (same : declarations = admitted ++ refused :: rest)
    (simple : ∀ declaration ∈ declarations, declaration.HasSimpleName)
    (held : ∀ declaration ∈ declarations,
      state.heap.HoldsOptional (before declaration.key) (state.valueHere? declaration.key))
    (machineHeld : ∀ declaration ∈ declarations, machine.heap.HoldsOptional
      (before declaration.key) (Machine.valueHere? machine declaration.key))
    (new : AreNew declarations before state.frame.types.get?)
    (allAdmitted : ∀ declaration ∈ admitted, declaration.refusal? = none)
    (isRefused : refused.refusal? = some fault) :
    ∃ later machineLater,
      Eval.statement (.dim (declarations.map source)) environment state =
          .error (.fault fault) later ∧
        Machine.execute calls nested guard (.dim (declarations.map lowered)) setup machine =
          .error (Machine.Stop.ofFault fault) machineLater ∧
        ∀ declaration ∈ declarations, HoldDeclared admitted before state.frame.types.get? later
          machineLater declaration.key := by
  subst same
  have refusedMember : refused ∈ admitted ++ refused :: rest :=
    List.mem_append_right _ List.mem_cons_self
  have unbound : Machine.valueHere? machine refused.key = none := by
    have same := machineHeld refused refusedMember
    rw [new.unbound refused refusedMember] at same
    exact same.eq_none
  obtain ⟨later, runs, resets⟩ := Eval.statement_refused environment limits
    (fun declaration member => simple declaration (List.mem_append_left _ member)) allAdmitted
    isRefused rest
  obtain ⟨machineLater, machineRuns, keeps⟩ := Machine.execute_refused calls nested guard setup
    machineLimits allAdmitted isRefused unbound new.first?_eq_none rest
  refine ⟨later, machineLater, runs, machineRuns, fun declaration member => ⟨?_, ?_⟩⟩
  · exact resets _ _ (Text.asciiLower_asciiLower declaration.name) (held declaration member)
  · exact keeps _ _ (machineHeld declaration member)

end

/-- A statement that declares variables resets each of them in the interpreter. In a loop program it
keeps those that are bound, and the first declaration of a name counts. Both have the same value for a
variable exactly if that makes no difference. If the names are new, it makes none, and both are refused
together if an array is too large. -/
theorem declarations_hold_same (environment : Environment)
    {declarations : List LiteralDeclaration} (before : String → Option Datum)
    (simple : ∀ declaration ∈ declarations, declaration.HasSimpleName)
    (limits : state.run.limiter.depth ≤ state.run.limiter.maxDepth ∧
      state.run.limiter.expired = false)
    (machineLimits : machine.limiter.depth ≤ machine.limiter.maxDepth ∧
      machine.limiter.deadline = none)
    (held : ∀ declaration ∈ declarations,
      state.heap.HoldsOptional (before declaration.key) (state.valueHere? declaration.key))
    (machineHeld : ∀ declaration ∈ declarations,
      machine.heap.HoldsOptional (before declaration.key) (Machine.valueHere? machine declaration.key))
    (context : LoweringContext) (loops : List LoopKind) (calls : Machine.Calls)
    (setup : Machine.Setup) (nested : Bool) (guard : Machine.Guard) :
    let statement := Eval.statement (.dim (declarations.map source)) environment state
    ∃ lowered, context.lowerStatement? loops (.dim (declarations.map source)) = some lowered ∧
      ((∀ declaration ∈ declarations, declaration.refusal? = none) →
        ∃ later machineLater, statement = .ok .continue later ∧
          Machine.execute calls nested guard lowered setup machine = .ok .normal machineLater ∧
          ∀ declaration ∈ declarations,
            let reset := reset? declaration.key (state.frame.types.get? declaration.key) declarations
            let kept := (before declaration.key).or (first? declaration.key declarations)
            later.heap.HoldsOptional reset (later.valueHere? declaration.key) ∧
              machineLater.heap.HoldsOptional kept
                (Machine.valueHere? machineLater declaration.key) ∧
              (HoldSame later machineLater declaration.key ↔ reset = kept)) ∧
      (AreNew declarations before state.frame.types.get? →
        ∃ later machineLater,
          (statement = .ok .continue later ∧
              Machine.execute calls nested guard lowered setup machine = .ok .normal machineLater ∨
            ∃ fault, statement = .error (.fault fault) later ∧
              Machine.execute calls nested guard lowered setup machine =
                .error (Machine.Stop.ofFault fault) machineLater) ∧
          ∀ declaration ∈ declarations, HoldSame later machineLater declaration.key) := by
  intro statement
  have lowers : context.lowerStatement? loops (.dim (declarations.map source)) =
      some (.dim (declarations.map lowered)) := by
    rw [LoweringContext.lowerStatement?, lowerDeclarations?_source, Option.map_some]
  refine ⟨.dim (declarations.map lowered), lowers, fun admitted => ?_, fun new => ?_⟩
  · obtain ⟨later, machineLater, runs, machineRuns, declared⟩ := exists_admitted environment calls
      setup nested guard limits machineLimits simple held machineHeld admitted
    refine ⟨later, machineLater, runs, machineRuns, fun declaration member => ?_⟩
    obtain ⟨reset, kept⟩ := declared declaration member
    rw [reset?_or member] at reset
    exact ⟨reset, kept, holdSame_iff reset kept⟩
  · rcases admitted_or_refused declarations with
      admitted | ⟨admitted, refused, rest, fault, same, allAdmitted, isRefused⟩
    · obtain ⟨later, machineLater, runs, machineRuns, declared⟩ := exists_admitted environment calls
        setup nested guard limits machineLimits simple held machineHeld admitted
      refine ⟨later, machineLater, .inl ⟨runs, machineRuns⟩, fun declaration member => ?_⟩
      exact (declared declaration member).holdSame new (new.unbound declaration member)
    · obtain ⟨later, machineLater, runs, machineRuns, declared⟩ := exists_refused environment calls
        setup nested guard limits machineLimits same simple held machineHeld new allAdmitted isRefused
      refine ⟨later, machineLater, .inr ⟨fault, runs, machineRuns⟩, fun declaration member => ?_⟩
      have newAdmitted : AreNew admitted before state.frame.types.get? := by
        rw [same] at new
        exact new.append_left
      exact (declared declaration member).holdSame newAdmitted (new.unbound declaration member)

private def machineWith (store : Std.TreeMap String Value) : Machine.State :=
  { heap := {}, limiter := (State.start {} none {} {}).run.limiter, store, types := ∅ }

private def callNothing : Machine.Calls :=
  fun _ _ => pure .null

private def emptySetup : Machine.Setup :=
  { program := default, maxIterations := 0, maxFaults := 0 }

private def newVariables : List LiteralDeclaration :=
  [{ name := "X", type := some .integer }, { name := "a", bounds := [2] }]

/-- New variables have the same values after both engines declared them. -/
theorem declarations_hold_same_new :
    let start := State.start {} none {} {}
    let context : LoweringContext := { caller := start.caller {}, store := ∅ }
    AreNew newVariables (fun _ => none) start.frame.types.get? ∧
      ∃ lowered later machineLater,
        context.lowerStatement? [.for] (.dim (newVariables.map source)) = some lowered ∧
          Eval.statement (.dim (newVariables.map source)) {} start = .ok .continue later ∧
          Machine.execute callNothing true .skip lowered emptySetup (machineWith ∅) =
            .ok .normal machineLater ∧
          HoldSame later machineLater "x" ∧ HoldSame later machineLater "a" := by
  intro start context
  have new : AreNew newVariables (fun _ => none) start.frame.types.get? :=
    ⟨by decide, fun _ _ => rfl, fun _ _ _ _ => rfl⟩
  have simple : ∀ declaration ∈ newVariables, declaration.HasSimpleName := by
    decide +kernel
  have admitted : ∀ declaration ∈ newVariables, declaration.refusal? = none := by
    rintro _ (_ | ⟨_, _ | ⟨_, ⟨⟩⟩⟩) <;> rfl
  have limits : start.run.limiter.depth ≤ start.run.limiter.maxDepth ∧
      start.run.limiter.expired = false :=
    ⟨Nat.zero_le _, rfl⟩
  have unbound : ∀ declaration ∈ newVariables,
      start.heap.HoldsOptional none (start.valueHere? declaration.key) :=
    fun _ _ => .none
  have machineUnbound : ∀ declaration ∈ newVariables,
      (machineWith ∅).heap.HoldsOptional none
        (Machine.valueHere? (machineWith ∅) declaration.key) :=
    fun _ _ => .none
  obtain ⟨lowered, lowers, whenAdmitted, _⟩ := declarations_hold_same {} (fun _ => none) simple
    limits ⟨limits.1, rfl⟩ unbound machineUnbound context [.for] callNothing emptySetup true .skip
  obtain ⟨later, machineLater, runs, machineRuns, values⟩ := whenAdmitted admitted
  refine ⟨new, lowered, later, machineLater, lowers, runs, machineRuns, ?_, ?_⟩
  · exact (values _ List.mem_cons_self).2.2.2 new.reset?_eq_first?
  · exact (values _ (List.mem_cons_of_mem _ List.mem_cons_self)).2.2.2 new.reset?_eq_first?

/-- A variable that holds five and is declared is zero in the interpreter and five in a loop program. -/
theorem declared_again_differs :
    let declaration : LiteralDeclaration := { name := "x", type := some .integer }
    let start := State.start {} none {} {}
    let state := { start with run.globals := start.run.globals.insert "x" (.value (.integer 5)) }
    let machine := machineWith ((∅ : Std.TreeMap String Value).insert "x" (.integer 5))
    HoldSame state machine "x" ∧
      ∃ later machineLater,
        Eval.statement (.dim [declaration.source]) {} state = .ok .continue later ∧
          Machine.execute callNothing true .skip (.dim [declaration.lowered]) emptySetup machine =
            .ok .normal machineLater ∧
          ¬HoldSame later machineLater "x" := by
  intro declaration start state machine
  have five (heap : Heap) : heap.HoldsOptional (some (.integer 5)) (some (.integer 5)) :=
    .some ⟨by simp [Heap.Shows, Datum.build], trivial⟩
  have held : state.heap.HoldsOptional (some (.integer 5)) (state.valueHere? "x") := five _
  have machineHeld : machine.heap.HoldsOptional (some (.integer 5))
      (Machine.valueHere? machine "x") := five _
  have simple : ∀ other ∈ [declaration], other.HasSimpleName := by decide +kernel
  have admitted : ∀ other ∈ [declaration], other.refusal? = none := by
    rintro _ (_ | ⟨_, ⟨⟩⟩)
    rfl
  have limits : state.run.limiter.depth ≤ state.run.limiter.maxDepth ∧
      state.run.limiter.expired = false :=
    ⟨Nat.zero_le _, rfl⟩
  have machineLimits : machine.limiter.depth ≤ machine.limiter.maxDepth ∧
      machine.limiter.deadline = none :=
    ⟨limits.1, rfl⟩
  obtain ⟨later, runs, resets⟩ := Eval.statement_admitted {} limits simple admitted
  obtain ⟨machineLater, machineRuns, keeps⟩ :=
    Machine.execute_admitted callNothing true .skip emptySetup machineLimits admitted
  refine ⟨⟨_, held, machineHeld⟩, later, machineLater, runs, machineRuns, fun same => ?_⟩
  have isReset : reset? "x" (state.frame.types.get? "x") [declaration] = some (.integer 0) := by
    rw [reset?, if_pos (by decide +kernel : declaration.key = "x")]
    rfl
  have zero := resets "x" _ (by decide +kernel) held
  rw [isReset, Option.some_or] at zero
  have kept : machineLater.heap.HoldsOptional (some (.integer 5))
      (Machine.valueHere? machineLater "x") :=
    keeps "x" _ machineHeld
  have equal := (holdSame_iff zero kept).1 same
  simp at equal

end MacroSandbox
