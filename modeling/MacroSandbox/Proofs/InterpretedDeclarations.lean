import MacroSandbox.Proofs.ConstantValues
import MacroSandbox.Proofs.Declarations
import MacroSandbox.Proofs.DocumentNodes
import MacroSandbox.Proofs.NameStems

/-! Declarations in the interpreter.

The interpreter resets a variable whenever it is declared, and coerces the first value to the type that
is known for the name. -/

namespace MacroSandbox

open LiteralDeclaration

/-- The value of a variable of the frame: a local one inside a procedure, one of the module outside. -/
def State.valueHere? (state : State) (name : String) : Option Value :=
  ((if state.frame.inProcedure then state.frame.locals else state.run.globals).get? name).bind
    Binding.value?

namespace Engine

def AnswersLiterals (engine : Engine) : Prop :=
  ∀ value environment state, Eval.check environment state = .ok () state →
    engine.operand (.literal value) environment state = .ok value state

theorem answersLiterals_interpreter : interpreter.AnswersLiterals := by
  obtain ⟨levels, positive⟩ : ∃ levels, maxNesting = levels + 1 := ⟨_, rfl⟩
  intro value environment state passed
  rw [interpreter, positive, within_operand]
  exact operandValue_literal _ value passed

variable {engine : Engine} {environment : Environment} {state : State}

theorem operands_literals (answers : engine.AnswersLiterals)
    (passed : Eval.check environment state = .ok () state) (bounds : List Int64) :
    engine.operands (bounds.map fun bound => .literal (.integer bound)) environment state =
      .ok (bounds.map .integer) state := by
  induction bounds with
  | nil => rfl
  | cons bound rest induction =>
      simp only [List.map_cons, operands, Running.run_bind, answers _ _ _ passed, induction,
        Running.run_pure]

theorem initialValue_source (answers : engine.AnswersLiterals)
    (passed : Eval.check environment state = .ok () state) (declaration : LiteralDeclaration) :
    engine.initialValue declaration.source environment state =
      match declaration.refusal? with
      | some fault => .error (.fault fault) state
      | none => .ok (declaration.initial.build state.heap).1
          { state with heap := (declaration.initial.build state.heap).2 } := by
  have values := operands_literals answers passed declaration.bounds
  unfold initialValue source
  dsimp only
  cases bounds : declaration.bounds with
  | nil =>
      obtain ⟨made, built⟩ := build_initial_of_scalar bounds state.heap
      rw [made, built]
      rfl
  | cons bound rest =>
      rw [bounds] at values
      change (engine.operands (List.map _ (bound :: rest)) >>= _) environment state = _
      rw [Running.run_bind, values, ← bounds]
      simp only [Eval.onHeap, dimensions_eq, newArray_eq]
      cases declaration.refusal? <;> rfl

end Engine

def State.declared (environment : Environment) (state : State) (declaration : LiteralDeclaration) :
    State :=
  let (value, heap) := declaration.initial.build state.heap
  let placement := if state.frame.inProcedure then Placement.local else Placement.global
  { state with heap }.assign environment placement declaration.type declaration.name value

def State.Resets (declarations : List LiteralDeclaration) (before after : State) : Prop :=
  ∀ name contents, Text.asciiLower name = name →
    before.heap.HoldsOptional contents (before.valueHere? name) →
      after.heap.HoldsOptional
        ((reset? name (before.frame.types.get? name) declarations).or contents)
        (after.valueHere? name)

namespace State

variable {state : State} {environment : Environment} {declaration : LiteralDeclaration}

theorem valueHere?_bind (name other : String) (value : Value) :
    (state.bind (if state.frame.inProcedure then .local else .global) name
        (.value value)).valueHere? other =
      if Text.asciiLower name = Text.asciiLower other then some value else state.valueHere? other := by
  cases place : state.frame.inProcedure with
  | true =>
      simp only [if_true, bind, bindsGlobally, Bool.false_eq_true, if_false, valueHere?, place,
        NameMap.get?_insert]
      split <;> rfl
  | false =>
      simp only [if_true, bind, bindsGlobally, Bool.false_eq_true, if_false, valueHere?, place,
        NameMap.get?_insert]
      split <;> rfl

@[simp] theorem frame_scanValue (value : Value) : (state.scanValue value).frame = state.frame := by
  cases value <;> rfl

theorem valueHere?_scanValue (value : Value) (name : String) :
    (state.scanValue value).valueHere? name = state.valueHere? name := by
  cases value <;> rfl

theorem declared_eq (simple : declaration.HasSimpleName) :
    let built := declaration.initial.build state.heap
    let typed := { state with heap := built.2 }.withType declaration.type declaration.name
    let value := built.2.coerceTo (typed.frame.types.get? declaration.name) built.1
    let scanned := typed.scanValue value
    state.declared environment declaration =
      scanned.bind (if scanned.frame.inProcedure then .local else .global) declaration.name
        (.value value) := by
  have assigned := @assign_eq_bind_of_isDotFree { state with
    heap := (declaration.initial.build state.heap).2 } environment _ simple.1
  rw [simple.2] at assigned
  unfold declared
  dsimp only
  rw [assigned, frame_scanValue]
  cases declaration.type <;> rfl

theorem get?_types_withType (type : Option DeclaredType) (name other : String) :
    (state.withType type name).frame.types.get? other =
      if Text.asciiLower name = Text.asciiLower other then type.or (state.frame.types.get? other)
      else state.frame.types.get? other := by
  cases type with
  | none => simp [withType]
  | some type => exact NameMap.get?_insert _ _ _ _

theorem limiter_declared (simple : declaration.HasSimpleName) :
    (state.declared environment declaration).run.limiter = state.run.limiter := by
  have ofBind (state : State) (placement : Placement) (name : String) (binding : Binding) :
      (state.bind placement name binding).run.limiter = state.run.limiter := by
    unfold bind
    split <;> rfl
  have ofScan (state : State) (value : Value) :
      (state.scanValue value).run.limiter = state.run.limiter := by
    cases value <;> rfl
  rw [declared_eq simple, ofBind, ofScan]
  cases declaration.type <;> rfl

theorem types_declared (simple : declaration.HasSimpleName) (name : String) :
    (state.declared environment declaration).frame.types.get? name =
      if declaration.key = Text.asciiLower name then
        declaration.type.or (state.frame.types.get? name)
      else state.frame.types.get? name := by
  rw [declared_eq simple, types_bind, types_scanValue, get?_types_withType]
  rfl

theorem holds_declared (environment : Environment) (simple : declaration.HasSimpleName)
    {name : String} {contents : Option Datum}
    (holds : state.heap.HoldsOptional contents (state.valueHere? name)) :
    (state.declared environment declaration).heap.HoldsOptional
      (if declaration.key = Text.asciiLower name then
        some (declaration.initial.coerceTo (declaration.type.or (state.frame.types.get? name)))
      else contents)
      ((state.declared environment declaration).valueHere? name) := by
  have built := Heap.holdsDatum_build declaration.isSound_initial state.heap
  have keeps := @Heap.KeepsBut.build none declaration.initial state.heap
  have sameValue (heap : Heap) : ({ state with heap }.withType declaration.type
      declaration.name).valueHere? name = state.valueHere? name := by
    cases declaration.type <;> rfl
  have sameHeap (heap : Heap) :
      ({ state with heap }.withType declaration.type declaration.name).heap = heap := by
    cases declaration.type <;> rfl
  rw [declared_eq simple, heap_bind, heap_scanValue, sameHeap, valueHere?_bind, valueHere?_scanValue,
    sameValue, get?_types_withType, if_pos rfl]
  rcases Decidable.em (declaration.key = Text.asciiLower name) with same | differs
  · have sameType : state.frame.types.get? declaration.name = state.frame.types.get? name := by
      rw [← NameMap.get?_asciiLower, ← NameMap.get?_asciiLower _ name, ← same]
      rfl
    rw [if_pos same, if_pos (show Text.asciiLower declaration.name = _ from same)]
    dsimp only
    rw [sameType]
    exact .some (built.coerceTo _)
  · rw [if_neg differs, if_neg (show ¬Text.asciiLower declaration.name = _ from differs)]
    exact holds.of_keepsBut keeps

end State

namespace Engine

variable {engine : Engine} {environment : Environment} {state : State}

theorem declare_source (answers : engine.AnswersLiterals)
    (passed : Eval.check environment state = .ok () state) (declaration : LiteralDeclaration)
    (rest : List Declaration) :
    engine.declare (declaration.source :: rest) environment state =
      match declaration.refusal? with
      | some fault => .error (.fault fault) state
      | none => engine.declare rest environment (state.declared environment declaration) := by
  rw [declare, Running.run_bind, initialValue_source answers passed]
  cases declaration.refusal? <;> rfl

theorem declare_append (environment : Environment) (answers : engine.AnswersLiterals)
    (limits : state.run.limiter.depth ≤ state.run.limiter.maxDepth ∧
      state.run.limiter.expired = false) {declarations : List LiteralDeclaration}
    (simple : ∀ declaration ∈ declarations, declaration.HasSimpleName)
    (admitted : ∀ declaration ∈ declarations, declaration.refusal? = none) :
    ∃ later : State, later.run.limiter = state.run.limiter ∧
      (∀ rest, engine.declare (declarations.map source ++ rest) environment state =
        engine.declare rest environment later) ∧
      state.Resets declarations later := by
  induction declarations generalizing state with
  | nil => exact ⟨state, rfl, fun _ => rfl, fun _ _ _ holds => holds⟩
  | cons declaration rest induction =>
      have first := simple declaration List.mem_cons_self
      have sameLimits := @State.limiter_declared state environment declaration first
      obtain ⟨later, limiter, declared, held⟩ :=
        @induction (state.declared environment declaration) (by rwa [sameLimits])
          (fun other member => simple other (List.mem_cons_of_mem _ member))
          (fun other member => admitted other (List.mem_cons_of_mem _ member))
      refine ⟨later, limiter.trans sameLimits, fun more => ?_, fun name contents lower holds => ?_⟩
      · rw [List.map_cons, List.cons_append, declare_source answers (Eval.check_eq limits),
          admitted declaration List.mem_cons_self]
        exact declared more
      · -- The rest finds the name with the type that the first declaration gave it.
        have further :=
          held name _ lower (State.holds_declared environment first holds)
        rw [State.types_declared first, lower] at further
        rw [reset?]
        split
        · rename_i same
          rw [if_pos same, if_pos same] at further
          rwa [Option.or_assoc, Option.some_or]
        · rename_i differs
          rwa [if_neg differs, if_neg differs] at further

end Engine

namespace Eval

variable {environment : Environment} {state : State} {declarations : List LiteralDeclaration}

theorem statement_dim (declarations : List Declaration) :
    statement (.dim declarations) environment state =
      match Engine.interpreter.declare declarations environment state with
      | .ok () later => .ok .continue later
      | .error stop later => .error stop later := by
  rw [Eval.statement, Engine.runStatement, Running.run_bind]
  cases Engine.interpreter.declare declarations environment state <;> rfl

theorem statement_admitted (environment : Environment)
    (limits : state.run.limiter.depth ≤ state.run.limiter.maxDepth ∧
      state.run.limiter.expired = false)
    (simple : ∀ declaration ∈ declarations, declaration.HasSimpleName)
    (admitted : ∀ declaration ∈ declarations, declaration.refusal? = none) :
    ∃ later, statement (.dim (declarations.map source)) environment state = .ok .continue later ∧
      state.Resets declarations later := by
  obtain ⟨later, _, declared, held⟩ := Engine.declare_append environment
    Engine.answersLiterals_interpreter limits simple admitted
  have declaredAll := declared []
  rw [List.append_nil] at declaredAll
  refine ⟨later, ?_, held⟩
  rw [statement_dim, declaredAll]
  rfl

theorem statement_refused {refused : LiteralDeclaration} {fault : Fault} (environment : Environment)
    (limits : state.run.limiter.depth ≤ state.run.limiter.maxDepth ∧
      state.run.limiter.expired = false)
    (simple : ∀ declaration ∈ declarations, declaration.HasSimpleName)
    (admitted : ∀ declaration ∈ declarations, declaration.refusal? = none)
    (isRefused : refused.refusal? = some fault) (rest : List LiteralDeclaration) :
    ∃ later, statement (.dim ((declarations ++ refused :: rest).map source)) environment state =
        .error (.fault fault) later ∧
      state.Resets declarations later := by
  obtain ⟨later, sameLimits, declared, held⟩ := Engine.declare_append environment
    Engine.answersLiterals_interpreter limits simple admitted
  rw [← sameLimits] at limits
  refine ⟨later, ?_, held⟩
  rw [statement_dim, List.map_append, declared, List.map_cons,
    Engine.declare_source Engine.answersLiterals_interpreter (Eval.check_eq limits), isRefused]

end Eval

end MacroSandbox
