import MacroSandbox.Proofs.ClosedPrograms
import MacroSandbox.Proofs.Running

/-! Runs of closed programs. No statement leaves a loop or a function that it is not in, so the loop
of the program ends like any statement, and no function is called that the program does not have. -/

namespace MacroSandbox

namespace Machine

/-! ## How statements end -/

/-- The flow stays within the loops and the function around a statement. Faults end loops only where
the guard says so. -/
def Flow.IsWithin (inFunction : Bool) (loops : List LoopKind) (guard : Guard) : Flow → Prop
  | .normal => True
  | .break kind => kind ∈ loops
  | .return => inFunction = true
  | .faulted => guard = .breakLoop

theorem Flow.IsWithin.leave {inFunction : Bool} {loops : List LoopKind} {kind : LoopKind}
    {bodyGuard : Guard} {flow : Flow} (within : flow.IsWithin inFunction (kind :: loops) bodyGuard)
    (notOwn : flow ≠ .break kind) (notFaulted : flow ≠ .faulted) (guard : Guard) :
    flow.IsWithin inFunction loops guard := by
  cases flow with
  | normal => trivial
  | «return» => exact within
  | faulted => exact absurd rfl notFaulted
  | «break» other =>
      rcases List.mem_cons.1 within with rfl | inLoops
      · exact absurd rfl notOwn
      · exact inLoops

def Yields {α : Type} (Result : α → Prop) (part : Machine α) : Prop :=
  ∀ setup state value after, part setup state = .ok value after → Result value

namespace Yields

variable {α β : Type} {Result : α → Prop} {Next : β → Prop}

theorem pure {value : α} (right : Result value) : Yields Result (Pure.pure value : Machine α) := by
  intro setup state result after ran
  cases ran
  exact right

theorem throw (stop : Stop) : Yields Result (MonadExcept.throw stop : Machine α) := by
  intro setup state result after ran
  cases ran

theorem bind {first : Machine α} {next : α → Machine β} (yieldsFirst : Yields Result first)
    (yieldsNext : ∀ value, Result value → Yields Next (next value)) :
    Yields Next (first >>= next) := by
  intro setup state result after ran
  obtain ⟨value, middle, ranFirst, ranNext⟩ := Running.ok_of_bind ran
  exact yieldsNext value (yieldsFirst _ _ _ _ ranFirst) _ _ _ _ ranNext

theorem after {first : Machine α} {next : α → Machine β}
    (yieldsNext : ∀ value, Yields Next (next value)) : Yields Next (first >>= next) :=
  @bind _ _ (fun _ => True) _ _ _ (fun _ _ _ _ _ => trivial) fun value _ => yieldsNext value

theorem guarded {Result : Flow → Prop} {guard : Guard} {statement : Machine Flow}
    (yields : Yields Result statement) (normal : Result .normal)
    (faulted : guard = .breakLoop → Result .faulted) :
    Yields Result (Machine.guarded guard statement) := by
  intro setup state flow after ran
  unfold Machine.guarded at ran
  split at ran
  · rename_i ended
    cases ran
    exact yields _ _ _ _ ended
  · cases ran
  · split at ran
    · cases ran
    · cases guard <;> cases ran
      · exact normal
      · exact faulted rfl

end Yields

section

variable {inFunction : Bool} {loops : List LoopKind} {bodyGuard guard : Guard} {body : Machine Flow}

theorem yields_rangeLoop
    (yields : Yields (Flow.IsWithin inFunction (.for :: loops) bodyGuard) body) (index : String)
    (finish step : Value) (descending : Bool) (left : Nat) :
    Yields (Flow.IsWithin inFunction loops guard)
      (rangeLoop body index finish step descending left) := by
  induction left with
  | zero => exact .throw _
  | succ left induction =>
      refine .after fun current => .after fun state => ?_
      split
      · exact .pure trivial
      refine .after fun _ => .bind yields fun flow within => ?_
      split
      · exact .after fun _ => induction
      · exact .pure trivial
      · exact .pure trivial
      · exact .pure (within.leave ‹_› ‹_› guard)

theorem yields_eachLoop
    (yields : Yields (Flow.IsWithin inFunction (.for :: loops) bodyGuard) body) (index : String)
    (items : List Value) :
    Yields (Flow.IsWithin inFunction loops guard) (eachLoop body index items) := by
  induction items with
  | nil => exact .pure trivial
  | cons item rest induction =>
      refine .after fun _ => .after fun _ => .bind yields fun flow within => ?_
      split
      · exact induction
      · exact .pure trivial
      · exact .pure trivial
      · exact .pure (within.leave ‹_› ‹_› guard)

theorem yields_conditionalLoop
    (yields : Yields (Flow.IsWithin inFunction (.do :: loops) bodyGuard) body)
    (condition : Machine Bool) (testFirst : Bool) (left : Nat) :
    Yields (Flow.IsWithin inFunction loops guard)
      (conditionalLoop body condition testFirst left) := by
  induction left with
  | zero => exact .throw _
  | succ left induction =>
      refine .after fun goesOn => ?_
      split
      · exact .pure trivial
      refine .after fun _ => .bind yields fun flow within => ?_
      split
      · refine .after fun goesOn => ?_
        split
        · exact .pure trivial
        · exact induction
      · exact .pure trivial
      · exact .pure trivial
      · exact .pure (within.leave ‹_› ‹_› guard)

end

section

variable {library : Library} {functions : Std.TreeMap String LoopFunction} {inFunction : Bool}
  {calls : Calls}

mutual

theorem yields_execute : ∀ {loops : List LoopKind} {nested : Bool} {guard : Guard}
    {statement : LoopStatement}, statement.IsClosed library functions inFunction loops →
    Yields (Flow.IsWithin inFunction loops guard) (execute calls nested guard statement)
  | loops, nested, guard, .dim declarations, _ => .after fun _ => .after fun _ => .pure trivial
  | loops, nested, guard, .assign name value, _ =>
      .after fun _ => .after fun _ => .after fun _ => .pure trivial
  | loops, nested, guard, .assignElement name indices value, _ =>
      .after fun _ => .after fun _ => .pure trivial
  | loops, nested, guard, .overwrite name start length value, _ =>
      .after fun _ => .after fun _ => .pure trivial
  | loops, nested, guard, .evaluate expression, _ =>
      .after fun _ => .after fun _ => .pure trivial
  | loops, nested, guard, .branch arms otherwise, closed => by
      rw [LoopStatement.IsClosed] at closed
      exact .after fun _ => yields_executeArms (yields_executeBlock closed.2) closed.1
  | loops, nested, guard, .forRange index start finish step body, closed => by
      rw [LoopStatement.IsClosed] at closed
      refine .after fun _ => .after fun _ => .after fun _ => .after fun _ => .after fun _ =>
        .after fun _ => ?_
      exact yields_rangeLoop (yields_executeBlock closed.2.2.2) _ _ _ _ _
  | loops, nested, guard, .forEach index items body, closed => by
      rw [LoopStatement.IsClosed] at closed
      refine .after fun _ => .after fun _ => .after fun _ => .after fun _ => ?_
      exact yields_eachLoop (yields_executeBlock closed.2) _ _
  | loops, nested, guard, .conditional condition testFirst body, closed => by
      rw [LoopStatement.IsClosed] at closed
      refine .after fun _ => .after fun _ => ?_
      exact yields_conditionalLoop (yields_executeBlock closed.2) _ _ _
  | loops, nested, guard, .break kind, closed => .after fun _ => .pure closed
  | loops, nested, guard, .return, closed => .after fun _ => .pure closed

theorem yields_executeArms : ∀ {loops : List LoopKind} {nested : Bool} {guard : Guard}
    {otherwise : Machine Flow} {arms : List LoopArm},
    Yields (Flow.IsWithin inFunction loops guard) otherwise →
    LoopStatement.AreClosedArms library functions inFunction loops arms →
    Yields (Flow.IsWithin inFunction loops guard) (executeArms calls nested guard otherwise arms)
  | loops, nested, guard, otherwise, [], yields, _ => yields
  | loops, nested, guard, otherwise, arm :: rest, yields, closed => by
      rw [LoopStatement.AreClosedArms] at closed
      rw [executeArms]
      exact yields_executeArm (yields_executeArms yields closed.2) closed.1

theorem yields_executeArm : ∀ {loops : List LoopKind} {nested : Bool} {guard : Guard}
    {otherwise : Machine Flow} {arm : LoopArm},
    Yields (Flow.IsWithin inFunction loops guard) otherwise →
    LoopStatement.IsClosedArm library functions inFunction loops arm →
    Yields (Flow.IsWithin inFunction loops guard) (executeArm calls nested guard otherwise arm)
  | loops, nested, guard, otherwise, .mk condition body, yields, closed => by
      rw [LoopStatement.IsClosedArm] at closed
      rw [executeArm]
      refine .after fun value => .after fun state => ?_
      split
      · exact yields_executeBlock closed.2
      · exact yields

theorem yields_executeBlock : ∀ {loops : List LoopKind} {nested : Bool} {guard : Guard}
    {statements : List LoopStatement},
    LoopStatement.AreClosed library functions inFunction loops statements →
    Yields (Flow.IsWithin inFunction loops guard) (executeBlock calls nested guard statements)
  | loops, nested, guard, [], _ => .pure trivial
  | loops, nested, guard, statement :: rest, closed => by
      rw [LoopStatement.AreClosed] at closed
      rw [executeBlock]
      refine .bind (.guarded (yields_execute closed.1) trivial id) fun flow within => ?_
      split
      · exact yields_executeBlock closed.2
      · exact .pure within

end

end

/-! ## Functions that a program does not have -/

def Setup.withFunctions (setup : Setup) (functions : Std.TreeMap String LoopFunction) : Setup :=
  { setup with program.functions := functions }

/-- Two parts of runs do the same, the second one with other functions. -/
def Alike {α : Type} (setup : Setup) (functions : Std.TreeMap String LoopFunction)
    (part other : Machine α) : Prop :=
  ∀ state, part setup state = other (setup.withFunctions functions) state

namespace Alike

variable {α β : Type} {setup : Setup} {functions : Std.TreeMap String LoopFunction}

theorem bind {first otherFirst : Machine α} {next otherNext : α → Machine β}
    (alikeFirst : Alike setup functions first otherFirst)
    (alikeNext : ∀ value, Alike setup functions (next value) (otherNext value)) :
    Alike setup functions (first >>= next) (otherFirst >>= otherNext) := by
  intro state
  rw [Running.run_bind, Running.run_bind, alikeFirst state]
  cases otherFirst (setup.withFunctions functions) state with
  | ok value middle => exact alikeNext value middle
  | error stop middle => rfl

theorem map {first otherFirst : Machine α} (image : α → β)
    (alike : Alike setup functions first otherFirst) :
    Alike setup functions (image <$> first) (image <$> otherFirst) :=
  alike.bind fun _ _ => rfl

theorem either {condition : Prop} [Decidable condition] {first otherFirst second otherSecond : Machine α}
    (alikeFirst : Alike setup functions first otherFirst)
    (alikeSecond : Alike setup functions second otherSecond) :
    Alike setup functions (if condition then first else second)
      (if condition then otherFirst else otherSecond) := by
  split
  · exact alikeFirst
  · exact alikeSecond

theorem lift (outcome : Except Fault α) :
    Alike setup functions (Machine.lift outcome) (Machine.lift outcome) := by
  cases outcome <;> exact fun _ => rfl

theorem consult {next other : Setup → Machine α}
    (alike : Alike setup functions (next setup) (other (setup.withFunctions functions))) :
    Alike setup functions (read >>= next) (read >>= other) :=
  alike

theorem countIteration :
    Alike setup functions Machine.countIteration Machine.countIteration := by
  refine Alike.bind (fun _ => rfl) fun _ => consult (Alike.bind (fun _ => rfl) fun state => ?_)
  exact either (fun _ => rfl) fun _ => rfl

theorem countFault : Alike setup functions Machine.countFault Machine.countFault := by
  refine Alike.bind (fun _ => rfl) fun _ => consult (Alike.bind (fun _ => rfl) fun state => ?_)
  exact either (fun _ => rfl) fun _ => rfl

theorem guarded {guard : Guard} {statement other : Machine Flow}
    (alike : Alike setup functions statement other) :
    Alike setup functions (Machine.guarded guard statement) (Machine.guarded guard other) := by
  intro state
  unfold Machine.guarded
  rw [alike state]
  split
  · rfl
  · rfl
  · rw [countFault]

theorem advance (index : String) (step : Value) :
    Alike setup functions (Machine.advance index step) (Machine.advance index step) :=
  Alike.bind (fun _ => rfl) fun _ => Alike.bind (fun _ => rfl) fun _ =>
    (lift _).bind fun _ _ => rfl

end Alike

section

variable {library : Library} {setup : Setup} {functions : Std.TreeMap String LoopFunction}

def CallsAlike (setup : Setup) (functions : Std.TreeMap String LoopFunction)
    (calls otherCalls : Calls) : Prop :=
  ∀ name, setup.program.functions.contains name = true → ∀ arguments,
    Alike setup functions (calls name arguments) (otherCalls name arguments)

variable {calls otherCalls : Calls}

mutual

theorem alike_evaluate (callsAlike : CallsAlike setup functions calls otherCalls) :
    ∀ {expression : LoopExpr}, expression.IsClosed library setup.program.functions →
    Alike setup functions (evaluate calls expression) (evaluate otherCalls expression)
  | .constant value, _ => fun _ => rfl
  | .var name, _ => fun _ => rfl
  | .unary operator operand, closed => by
      rw [LoopExpr.IsClosed] at closed
      exact (alike_evaluate callsAlike closed).bind fun _ _ => rfl
  | .binary operator left right, closed => by
      rw [LoopExpr.IsClosed] at closed
      exact (alike_evaluate callsAlike closed.1).bind fun _ =>
        (alike_evaluate callsAlike closed.2).bind fun _ =>
          Alike.bind (fun _ => rfl) fun _ => .lift _
  | .index name indices, closed => by
      rw [LoopExpr.IsClosed] at closed
      exact (alike_evaluateAll callsAlike closed).bind fun _ => Alike.bind (fun _ => rfl) fun _ =>
        Alike.bind (fun _ => rfl) fun _ => .lift _
  | .builtin name routine arguments, closed => by
      rw [LoopExpr.IsClosed] at closed
      exact (alike_evaluateAll callsAlike closed.2).bind fun _ _ => rfl
  | .call name arguments, closed => by
      rw [LoopExpr.IsClosed] at closed
      exact (alike_evaluateAll callsAlike closed.2).bind fun values => callsAlike name closed.1 values
  | .writeMemory arguments, closed => by
      rw [LoopExpr.IsClosed] at closed
      exact (alike_evaluateAll callsAlike closed.2).bind fun _ _ => rfl

theorem alike_evaluateAll (callsAlike : CallsAlike setup functions calls otherCalls) :
    ∀ {expressions : List LoopExpr}, LoopExpr.AreClosed library setup.program.functions expressions →
    Alike setup functions (evaluateAll calls expressions) (evaluateAll otherCalls expressions)
  | [], _ => fun _ => rfl
  | expression :: rest, closed => by
      rw [LoopExpr.AreClosed] at closed
      exact (alike_evaluate callsAlike closed.1).bind fun _ =>
        (alike_evaluateAll callsAlike closed.2).bind fun _ _ => rfl

end

variable (callsAlike : CallsAlike setup functions calls otherCalls)

include callsAlike

theorem alike_evaluateOptional {expression : Option LoopExpr}
    (closed : ∀ given ∈ expression, given.IsClosed library setup.program.functions) :
    Alike setup functions (evaluateOptional calls expression)
      (evaluateOptional otherCalls expression) := by
  cases expression with
  | none => exact fun _ => rfl
  | some expression => exact (alike_evaluate callsAlike (closed expression rfl)).map some

theorem alike_initialValue {declaration : LoopDeclaration}
    (closed : LoopExpr.AreClosed library setup.program.functions declaration.bounds) :
    Alike setup functions (initialValue calls declaration)
      (initialValue otherCalls declaration) := by
  unfold initialValue
  split
  · exact fun _ => rfl
  · exact (alike_evaluateAll callsAlike closed).bind fun _ _ => rfl

theorem alike_declareAll {declarations : List LoopDeclaration}
    (closed : ∀ declaration ∈ declarations,
      LoopExpr.AreClosed library setup.program.functions declaration.bounds) :
    Alike setup functions (declareAll calls declarations) (declareAll otherCalls declarations) := by
  induction declarations with
  | nil => exact fun _ => rfl
  | cons declaration rest induction =>
      have alikeFirst : Alike setup functions (declare calls declaration)
          (declare otherCalls declaration) := by
        have alikeInitial := alike_initialValue callsAlike (closed declaration List.mem_cons_self)
        refine Alike.bind (fun _ => rfl) fun state => ?_
        exact Alike.either (fun _ => rfl) (alikeInitial.bind fun _ _ => rfl)
      exact alikeFirst.bind fun _ =>
        induction fun later member => closed later (List.mem_cons_of_mem _ member)

theorem alike_assignElement {name : String} {indices : List LoopExpr} {value : LoopExpr}
    (closedIndices : LoopExpr.AreClosed library setup.program.functions indices)
    (closedValue : value.IsClosed library setup.program.functions) :
    Alike setup functions (assignElement calls name indices value)
      (assignElement otherCalls name indices value) :=
  (alike_evaluate callsAlike closedValue).bind fun _ =>
    (alike_evaluateAll callsAlike closedIndices).bind fun _ => Alike.bind (fun _ => rfl) fun _ =>
      Alike.bind (fun _ => rfl) fun _ => (Alike.lift _).bind fun _ _ => rfl

theorem alike_overwriteText {name : String} {start : LoopExpr} {length : Option LoopExpr}
    {value : LoopExpr} (closedStart : start.IsClosed library setup.program.functions)
    (closedLength : ∀ given ∈ length, given.IsClosed library setup.program.functions)
    (closedValue : value.IsClosed library setup.program.functions) :
    Alike setup functions (overwriteText calls name start length value)
      (overwriteText otherCalls name start length value) :=
  (alike_evaluate callsAlike closedValue).bind fun _ => Alike.bind (fun _ => rfl) fun _ =>
    (alike_evaluate callsAlike closedStart).bind fun _ =>
      (alike_evaluateOptional callsAlike closedLength).bind fun _ =>
        Alike.bind (fun _ => rfl) fun _ => Alike.bind (fun _ => rfl) fun _ =>
          (Alike.lift _).bind fun _ _ => rfl

theorem alike_goesOn {condition : Option (LoopTest × LoopExpr)}
    (closed : ∀ given ∈ condition, given.2.IsClosed library setup.program.functions) :
    Alike setup functions (goesOn calls condition) (goesOn otherCalls condition) := by
  rcases condition with - | ⟨test, expression⟩
  · exact fun _ => rfl
  · have alike := alike_evaluate callsAlike (closed _ rfl)
    cases test <;> exact alike.bind fun _ _ => rfl

end

/-! ### Loops -/

section

variable {setup : Setup} {functions : Std.TreeMap String LoopFunction} {body other : Machine Flow}
  (alike : Alike setup functions body other)

include alike

theorem alike_rangeLoop (index : String) (finish step : Value) (descending : Bool) (left : Nat) :
    Alike setup functions (rangeLoop body index finish step descending left)
      (rangeLoop other index finish step descending left) := by
  induction left with
  | zero => exact fun _ => rfl
  | succ left induction =>
      refine Alike.bind (fun _ => rfl) fun current => Alike.bind (fun _ => rfl) fun state => ?_
      refine Alike.either (fun _ => rfl) (Alike.countIteration.bind fun _ => alike.bind fun flow => ?_)
      split
      · exact (Alike.advance index step).bind fun _ => induction
      all_goals exact fun _ => rfl

theorem alike_eachLoop (index : String) (items : List Value) :
    Alike setup functions (eachLoop body index items) (eachLoop other index items) := by
  induction items with
  | nil => exact fun _ => rfl
  | cons item rest induction =>
      refine Alike.countIteration.bind fun _ => Alike.bind (fun _ => rfl) fun _ =>
        alike.bind fun flow => ?_
      split
      · exact induction
      all_goals exact fun _ => rfl

theorem alike_conditionalLoop {condition otherCondition : Machine Bool}
    (alikeCondition : Alike setup functions condition otherCondition) (testFirst : Bool)
    (left : Nat) :
    Alike setup functions (conditionalLoop body condition testFirst left)
      (conditionalLoop other otherCondition testFirst left) := by
  have alikeTest (tested : Bool) :
      Alike setup functions (testWhen tested condition) (testWhen tested otherCondition) :=
    Alike.either alikeCondition fun _ => rfl
  induction left with
  | zero => exact fun _ => rfl
  | succ left induction =>
      refine (alikeTest testFirst).bind fun goesOn => Alike.either (fun _ => rfl) ?_
      refine Alike.countIteration.bind fun _ => alike.bind fun flow => ?_
      split
      · exact (alikeTest _).bind fun goesOn => Alike.either (fun _ => rfl) induction
      all_goals exact fun _ => rfl

end

/-! ### Statements and calls -/

private theorem exists_of_contains {functions : Std.TreeMap String LoopFunction} {name : String}
    (isDefined : functions.contains name = true) :
    ∃ function, functions.get? name = some function := by
  rw [Std.TreeMap.contains_eq_isSome_getElem?, ← Std.TreeMap.get?_eq_getElem?] at isDefined
  exact Option.isSome_iff_exists.1 isDefined

section

variable {library : Library} {setup : Setup} {functions : Std.TreeMap String LoopFunction}
  {inFunction : Bool} {calls otherCalls : Calls}

mutual

theorem alike_execute (callsAlike : CallsAlike setup functions calls otherCalls) :
    ∀ {loops : List LoopKind} {nested : Bool} {guard : Guard} {statement : LoopStatement},
      statement.IsClosed library setup.program.functions inFunction loops →
      Alike setup functions (execute calls nested guard statement)
        (execute otherCalls nested guard statement)
  | loops, nested, guard, .dim declarations, closed => by
      rw [LoopStatement.IsClosed] at closed
      exact Alike.bind (fun _ => rfl) fun _ => (alike_declareAll callsAlike closed).bind fun _ _ => rfl
  | loops, nested, guard, .assign name value, closed => by
      rw [LoopStatement.IsClosed] at closed
      exact Alike.bind (fun _ => rfl) fun _ => (alike_evaluate callsAlike closed).bind fun _ _ => rfl
  | loops, nested, guard, .assignElement name indices value, closed => by
      rw [LoopStatement.IsClosed] at closed
      exact Alike.bind (fun _ => rfl) fun _ =>
        (alike_assignElement callsAlike closed.1 closed.2).bind fun _ _ => rfl
  | loops, nested, guard, .overwrite name start length value, closed => by
      rw [LoopStatement.IsClosed] at closed
      exact Alike.bind (fun _ => rfl) fun _ =>
        (alike_overwriteText callsAlike closed.1 closed.2.1 closed.2.2).bind fun _ _ => rfl
  | loops, nested, guard, .evaluate expression, closed => by
      rw [LoopStatement.IsClosed] at closed
      exact Alike.bind (fun _ => rfl) fun _ => (alike_evaluate callsAlike closed).bind fun _ _ => rfl
  | loops, nested, guard, .branch arms otherwise, closed => by
      rw [LoopStatement.IsClosed] at closed
      exact Alike.bind (fun _ => rfl) fun _ =>
        alike_executeArms callsAlike (alike_executeBlock callsAlike closed.2) closed.1
  | loops, nested, guard, .forRange index start finish step body, closed => by
      rw [LoopStatement.IsClosed] at closed
      obtain ⟨closedStart, closedFinish, closedStep, closedBody⟩ := closed
      refine Alike.bind (fun _ => rfl) fun _ => (alike_evaluate callsAlike closedStart).bind fun _ =>
        (alike_evaluate callsAlike closedFinish).bind fun _ =>
        (alike_evaluateOptional callsAlike closedStep).bind fun _ =>
        Alike.bind (fun _ => rfl) fun _ => Alike.consult ?_
      exact alike_rangeLoop (alike_executeBlock callsAlike closedBody) _ _ _ _ _
  | loops, nested, guard, .forEach index items body, closed => by
      rw [LoopStatement.IsClosed] at closed
      refine Alike.bind (fun _ => rfl) fun _ => (alike_evaluate callsAlike closed.1).bind fun _ =>
        Alike.bind (fun _ => rfl) fun _ => (Alike.lift _).bind fun _ => ?_
      exact alike_eachLoop (alike_executeBlock callsAlike closed.2) _ _
  | loops, nested, guard, .conditional condition testFirst body, closed => by
      rw [LoopStatement.IsClosed] at closed
      refine Alike.bind (fun _ => rfl) fun _ => Alike.consult ?_
      exact alike_conditionalLoop (alike_executeBlock callsAlike closed.2)
        (alike_goesOn callsAlike closed.1) _ _
  | loops, nested, guard, .break kind, _ => fun _ => rfl
  | loops, nested, guard, .return, _ => fun _ => rfl

theorem alike_executeArms (callsAlike : CallsAlike setup functions calls otherCalls) :
    ∀ {loops : List LoopKind} {nested : Bool} {guard : Guard} {otherwise other : Machine Flow}
      {arms : List LoopArm}, Alike setup functions otherwise other →
      LoopStatement.AreClosedArms library setup.program.functions inFunction loops arms →
      Alike setup functions (executeArms calls nested guard otherwise arms)
        (executeArms otherCalls nested guard other arms)
  | loops, nested, guard, otherwise, other, [], alike, _ => alike
  | loops, nested, guard, otherwise, other, arm :: rest, alike, closed => by
      rw [LoopStatement.AreClosedArms] at closed
      rw [executeArms, executeArms]
      exact alike_executeArm callsAlike (alike_executeArms callsAlike alike closed.2) closed.1

theorem alike_executeArm (callsAlike : CallsAlike setup functions calls otherCalls) :
    ∀ {loops : List LoopKind} {nested : Bool} {guard : Guard} {otherwise other : Machine Flow}
      {arm : LoopArm}, Alike setup functions otherwise other →
      LoopStatement.IsClosedArm library setup.program.functions inFunction loops arm →
      Alike setup functions (executeArm calls nested guard otherwise arm)
        (executeArm otherCalls nested guard other arm)
  | loops, nested, guard, otherwise, other, .mk condition body, alike, closed => by
      rw [LoopStatement.IsClosedArm] at closed
      rw [executeArm, executeArm]
      exact (alike_evaluate callsAlike closed.1).bind fun _ => Alike.bind (fun _ => rfl) fun _ =>
        Alike.either (alike_executeBlock callsAlike closed.2) alike

theorem alike_executeBlock (callsAlike : CallsAlike setup functions calls otherCalls) :
    ∀ {loops : List LoopKind} {nested : Bool} {guard : Guard} {statements : List LoopStatement},
      LoopStatement.AreClosed library setup.program.functions inFunction loops statements →
      Alike setup functions (executeBlock calls nested guard statements)
        (executeBlock otherCalls nested guard statements)
  | loops, nested, guard, [], _ => fun _ => rfl
  | loops, nested, guard, statement :: rest, closed => by
      rw [LoopStatement.AreClosed] at closed
      rw [executeBlock, executeBlock]
      refine (Alike.guarded (alike_execute callsAlike closed.1)).bind fun flow => ?_
      split
      · exact alike_executeBlock callsAlike closed.2
      · exact fun _ => rfl

end

theorem alike_bindParameters (parameters : List (String × Option DeclaredType))
    (arguments : List Value) :
    Alike setup functions (bindParameters parameters arguments)
      (bindParameters parameters arguments) := by
  induction parameters generalizing arguments with
  | nil => exact fun _ => rfl
  | cons parameter rest induction =>
      exact Alike.bind (fun _ => rfl) fun _ => Alike.bind (fun _ => rfl) fun _ => induction _

theorem alike_runFunction (callsAlike : CallsAlike setup functions calls otherCalls)
    {function : LoopFunction}
    (closed : LoopStatement.AreClosed library setup.program.functions true [] function.body)
    (arguments : List Value) :
    Alike setup functions (runFunction calls function arguments)
      (runFunction otherCalls function arguments) := by
  have alikeResult : Alike setup functions (bindResult function) (bindResult function) :=
    Alike.either (fun _ => rfl) fun _ => rfl
  exact alikeResult.bind fun _ => (alike_bindParameters _ _).bind fun _ =>
    (alike_executeBlock callsAlike closed).bind fun _ _ => rfl

theorem callsAlike_callFunction (closed : setup.program.IsClosed library)
    (kept : ∀ name function, setup.program.functions.get? name = some function →
      functions.get? name = some function) (left : Nat) :
    CallsAlike setup functions (callFunction left) (callFunction left) := by
  induction left with
  | zero =>
      intro name isDefined arguments state
      obtain ⟨function, found⟩ := exists_of_contains isDefined
      unfold callFunction
      simp only [Setup.withFunctions, found, kept name function found]
  | succ left induction =>
      intro name isDefined arguments state
      obtain ⟨function, found⟩ := exists_of_contains isDefined
      have alike := alike_runFunction induction (closed.functions name function found) arguments
      unfold callFunction
      simp only [Setup.withFunctions, found, kept name function found]
      split
      · rfl
      · rw [alike]
        rfl

end

/-! ## Runs -/

theorem flow_of_execute {library : Library} {program : LoopProgram}
    (closed : program.IsClosed library) {calls : Calls} {nested : Bool} {setup : Setup}
    {state after : State} {flow : Flow}
    (ran : execute calls nested .skip program.body setup state = .ok flow after) :
    flow = .normal := by
  have within := yields_execute closed.body setup state flow after ran
  cases flow with
  | normal => rfl
  | «break» kind => cases within
  | «return» => cases within
  | faulted => cases within

/-- Functions that a closed program does not have make no difference to its run. -/
theorem run_withFunctions {library : Library} {program : LoopProgram}
    (closed : program.IsClosed library) {functions : Std.TreeMap String LoopFunction}
    (kept : ∀ name function, program.functions.get? name = some function →
      functions.get? name = some function)
    (policy : Policy) (heap : Heap) (limiter : Limiter) :
    run { program with functions } policy heap limiter = run program policy heap limiter := by
  let setup : Setup := ⟨program, policy.maxCompiledIterations, policy.maxLoopFaults⟩
  have callsAlike := @callsAlike_callFunction library setup functions closed kept
    (limiter.maxDepth - limiter.depth)
  have alike := @alike_execute library setup functions false _ _ callsAlike [] false .skip
    program.body closed.body (start program heap limiter)
  have sameStart : start { program with functions } heap limiter = start program heap limiter := rfl
  simp only [setup, Setup.withFunctions] at alike
  unfold run
  dsimp only
  rw [sameStart, alike]
  rfl

end Machine

/-! ## Loops of a caller -/

/-- The program of a loop is closed, where the procedures of the module are bound under their own
names and no name has white space around it. So a run of it calls no function that is missing: it is
the same run whatever other functions there are. And unless its loop ends in a fault, the loop ends
like any statement. -/
theorem Caller.lower?_closed {caller : Caller} {loop : Statement} {lowered : Lowered}
    (registers : caller.globals.RegistersProcedures)
    (trimmed : (Node.statement loop).IsTrimmed)
    (proceduresTrimmed : ∀ name procedure, caller.globals.get? name = some (.procedure procedure) →
      (Node.procedure procedure).IsTrimmed)
    (lowers : caller.lower? loop = some lowered) :
    lowered.program.IsClosed caller.environment.library ∧
      (∀ functions, (∀ name function, lowered.program.functions.get? name = some function →
          functions.get? name = some function) →
        ∀ policy heap limiter,
          Machine.run { lowered.program with functions } policy heap limiter =
            Machine.run lowered.program policy heap limiter) ∧
      ∀ calls setup state flow after,
        Machine.execute calls false .skip lowered.program.body setup state = .ok flow after →
        flow = .normal := by
  have closed := isClosed_of_lower? registers trimmed proceduresTrimmed lowers
  refine ⟨closed, ?_, ?_⟩
  · intro functions kept policy heap limiter
    exact Machine.run_withFunctions closed kept policy heap limiter
  · intro calls setup state flow after ran
    exact Machine.flow_of_execute closed ran

private def descendingFunction : Procedure :=
  { name := "F"
    kind := .function
    parameters := [{ name := "n" }]
    body := [.whileLoop (.var "n") [.exit .do],
      .assign (.var "F") (.call (.var "F") [.literal (.integer 0)])] }

private def descendingLoop : Statement :=
  .forRange "i" (.literal (.integer 1)) (.literal (.integer 3)) none
    [.assign (.var "x") (.call (.var "f") [.var "i"])]

private def noLibrary : Environment :=
  { library := {}, constants := {} }

private def descendingState : State :=
  (State.start noLibrary none {} {}).setProcedure descendingFunction

/-- The program of a loop that calls a function has the function, and is closed. -/
theorem Caller.lower?_closed_descending :
    ∃ lowered, (descendingState.caller noLibrary).lower? descendingLoop = some lowered ∧
      lowered.program.functions.contains "f" = true ∧ lowered.program.IsClosed {} := by
  have isLowered : ((descendingState.caller noLibrary).lower? descendingLoop).any
      (fun lowered => lowered.program.functions.contains "f") = true := by decide +kernel
  obtain ⟨lowered, lowers, contains⟩ := (Option.any_eq_true _ _).1 isLowered
  have registers : descendingState.run.globals.RegistersProcedures :=
    .setProcedure .empty descendingFunction
  have proceduresTrimmed : ∀ name procedure,
      descendingState.run.globals.get? name = some (.procedure procedure) →
      (Node.procedure procedure).IsTrimmed := by
    intro name procedure found
    simp only [descendingState, State.setProcedure, NameMap.get?_insert] at found
    split at found
    · cases found
      decide +kernel
    · simp [State.start, Run.start, NameMap.get?] at found
  exact ⟨lowered, lowers, contains,
    (lower?_closed registers (by decide +kernel) proceduresTrimmed lowers).1⟩

end MacroSandbox
