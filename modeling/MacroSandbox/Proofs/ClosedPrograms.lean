import MacroSandbox.Proofs.LoweredPrograms
import MacroSandbox.Proofs.Reachability

/-! Lowered programs are closed: they use no variable, function or loop that is not theirs. A run of
such a program calls no function that is missing, and its loop ends like a loop. -/

namespace MacroSandbox

/-! ## Closed programs -/

section

variable (library : Library) (functions : Std.TreeMap String LoopFunction)

namespace LoopExpr

mutual

/-- The expression calls functions that are defined, functions of the library with as many arguments
as they admit, and moves to memory with all three arguments. -/
def IsClosed : LoopExpr → Prop
  | .constant _ | .var _ => True
  | .unary _ operand => operand.IsClosed
  | .binary _ left right => left.IsClosed ∧ right.IsClosed
  | .index _ indices => AreClosed indices
  | .builtin name routine arguments =>
      (∃ function spelling, library.get? spelling = some function ∧
        name = Text.asciiLower function.name ∧ function.routine = .pure routine ∧
        function.arity.admits arguments.length = true) ∧
      AreClosed arguments
  | .call name arguments => functions.contains name = true ∧ AreClosed arguments
  | .writeMemory arguments => arguments.length = 3 ∧ AreClosed arguments

def AreClosed : List LoopExpr → Prop
  | [] => True
  | expression :: rest => expression.IsClosed ∧ AreClosed rest

end

end LoopExpr

namespace LoopStatement

variable (inFunction : Bool)

mutual

/-- The expressions of the statement are closed, and its exits leave a loop of their kind around
them, or a function that they are in. -/
def IsClosed (loops : List LoopKind) : LoopStatement → Prop
  | .dim declarations => ∀ declaration ∈ declarations,
      LoopExpr.AreClosed library functions declaration.bounds
  | .assign _ value => value.IsClosed library functions
  | .assignElement _ indices value =>
      LoopExpr.AreClosed library functions indices ∧ value.IsClosed library functions
  | .overwrite _ start length value =>
      start.IsClosed library functions ∧ (∀ given ∈ length, given.IsClosed library functions) ∧
        value.IsClosed library functions
  | .evaluate expression => expression.IsClosed library functions
  | .branch arms otherwise => AreClosedArms loops arms ∧ AreClosed loops otherwise
  | .forRange _ start finish step body =>
      start.IsClosed library functions ∧ finish.IsClosed library functions ∧
        (∀ given ∈ step, given.IsClosed library functions) ∧ AreClosed (.for :: loops) body
  | .forEach _ items body =>
      items.IsClosed library functions ∧ AreClosed (.for :: loops) body
  | .conditional condition _ body =>
      (∀ given ∈ condition, given.2.IsClosed library functions) ∧ AreClosed (.do :: loops) body
  | .break kind => kind ∈ loops
  | .return => inFunction = true

def AreClosedArms (loops : List LoopKind) : List LoopArm → Prop
  | [] => True
  | arm :: rest => IsClosedArm loops arm ∧ AreClosedArms loops rest

def IsClosedArm (loops : List LoopKind) : LoopArm → Prop
  | .mk condition body => condition.IsClosed library functions ∧ AreClosed loops body

def AreClosed (loops : List LoopKind) : List LoopStatement → Prop
  | [] => True
  | statement :: rest => IsClosed loops statement ∧ AreClosed loops rest

end

end LoopStatement

/-- A program whose parts refer to nothing outside of it but functions of a library. -/
structure LoopProgram.IsClosed (program : LoopProgram) : Prop where
  captures : ∀ name ∈ program.captures, name ∈ program.prologue
  shared : ∀ name ∈ program.shared, name ∈ program.prologue
  body : program.body.IsClosed library program.functions false []
  functions : ∀ name function, program.functions.get? name = some function →
    LoopStatement.AreClosed library program.functions true [] function.body

end

/-! ## Lowering -/

/-- Every variable in a part whose name is that of a procedure stands for a function. -/
def Caller.Resolves (caller : Caller) (functions : Std.TreeMap String LoopFunction) (node : Node) :
    Prop :=
  ∀ name, node.Contains (.expr (.var name)) → (caller.scope.procedure? name).isSome = true →
    functions.contains (Text.asciiLower name) = true

theorem Caller.Resolves.part {caller : Caller} {functions : Std.TreeMap String LoopFunction}
    {node inner : Node} (resolves : caller.Resolves functions node) (isPart : node.HasPart inner) :
    caller.Resolves functions inner :=
  fun name contains => resolves name (.head isPart contains)

namespace LoweringContext

variable {context : LoweringContext} {functions : Std.TreeMap String LoopFunction}

theorem isClosed_of_builtin? {library : Library} {function : LibraryFunction}
    {arguments : List LoopExpr} {lowered : LoopExpr} {spelling : String}
    (known : library.get? spelling = some function)
    (closed : LoopExpr.AreClosed library functions arguments)
    (lowers : builtin? function arguments = some lowered) :
    lowered.IsClosed library functions := by
  unfold builtin? at lowers
  split at lowers
  · rename_i routine isPure
    split at lowers
    · rename_i admits
      cases lowers
      exact ⟨⟨function, spelling, known, rfl, isPure, admits⟩, closed⟩
    · cases lowers
  · cases lowers

theorem isClosed_of_lowerName? {name : String} {lowered : LoopExpr}
    (lowers : context.lowerName? name = some lowered)
    (resolves : context.caller.Resolves functions (.expr (.var name))) :
    lowered.IsClosed context.caller.environment.library functions := by
  unfold lowerName? at lowers
  dsimp only at lowers
  split at lowers
  · cases lowers
  split at lowers
  · cases lowers
    trivial
  split at lowers
  · rename_i isProcedure
    cases lowers
    exact ⟨resolves name (.refl _) isProcedure, trivial⟩
  split at lowers
  · rename_i function known
    split at lowers
    · exact isClosed_of_builtin? known (by trivial) lowers
    · cases lowers
      trivial
  · cases lowers
    trivial

theorem isClosed_of_lowerCall? {name : String} {arguments : List LoopExpr} {lowered : LoopExpr}
    (lowers : context.lowerCall? name arguments = some lowered)
    (resolves : context.caller.Resolves functions (.expr (.var name)))
    (closed : LoopExpr.AreClosed context.caller.environment.library functions arguments) :
    lowered.IsClosed context.caller.environment.library functions := by
  unfold lowerCall? at lowers
  dsimp only at lowers
  split at lowers
  · cases lowers
    exact closed
  split at lowers
  · rename_i isProcedure
    cases lowers
    exact ⟨resolves name (.refl _) isProcedure, closed⟩
  split at lowers
  · cases lowers
  · rename_i function found
    split at lowers
    · rename_i moves
      cases lowers
      simp only [Bool.and_eq_true, beq_iff_eq] at moves
      exact ⟨moves.2, closed⟩
    · rcases Option.or_eq_some_iff.1 found with known | ⟨-, known⟩
      · exact isClosed_of_builtin? known closed lowers
      · exact isClosed_of_builtin? known closed lowers

mutual

theorem isClosed_of_lowerExpr? : ∀ {expression : Expr} {lowered : LoopExpr},
    context.lowerExpr? expression = some lowered →
    context.caller.Resolves functions (.expr expression) →
    lowered.IsClosed context.caller.environment.library functions
  | .literal value, lowered, lowers, _ => by
      cases value <;>
        simp only [lowerExpr?, Option.ite_none_right_eq_some, Option.some.injEq] at lowers
      case text =>
        obtain ⟨-, rfl⟩ := lowers
        trivial
      all_goals
        subst lowers
        trivial
  | .var name, lowered, lowers, resolves => by
      rw [lowerExpr?] at lowers
      exact isClosed_of_lowerName? lowers resolves
  | .unary operator operand, lowered, lowers, resolves => by
      simp only [lowerExpr?, Option.map_eq_some_iff] at lowers
      obtain ⟨lowerOperand, lowersOperand, rfl⟩ := lowers
      rw [LoopExpr.IsClosed]
      exact isClosed_of_lowerExpr? lowersOperand (resolves.part .operand)
  | .binary operator left right, lowered, lowers, resolves => by
      rw [lowerExpr?] at lowers
      split at lowers
      · rename_i lowersLeft lowersRight
        cases lowers
        exact ⟨isClosed_of_lowerExpr? lowersLeft (resolves.part .left),
          isClosed_of_lowerExpr? lowersRight (resolves.part .right)⟩
      · cases lowers
  | .call (.var name) arguments, lowered, lowers, resolves => by
      rw [lowerExpr?] at lowers
      split at lowers
      · rename_i lowersArguments
        exact isClosed_of_lowerCall? lowers (resolves.part .callee)
          (areClosed_of_lowerExprs? lowersArguments fun _ => (resolves.part <| .argument ·))
      · cases lowers
  | .receiver, lowered, lowers, _ | .member .., lowered, lowers, _ => by
      simp [lowerExpr?] at lowers
  | .call (.literal _) _, lowered, lowers, _ | .call (.unary ..) _, lowered, lowers, _
  | .call (.binary ..) _, lowered, lowers, _ | .call .receiver _, lowered, lowers, _
  | .call (.member ..) _, lowered, lowers, _ | .call (.call ..) _, lowered, lowers, _ => by
      simp [lowerExpr?] at lowers

theorem areClosed_of_lowerExprs? : ∀ {expressions : List Expr} {lowered : List LoopExpr},
    context.lowerExprs? expressions = some lowered →
    (∀ expression ∈ expressions, context.caller.Resolves functions (.expr expression)) →
    LoopExpr.AreClosed context.caller.environment.library functions lowered
  | [], lowered, lowers, _ => by
      simp only [lowerExprs?, Option.some.injEq] at lowers
      subst lowers
      trivial
  | expression :: rest, lowered, lowers, resolves => by
      obtain ⟨inFirst, inRest⟩ := List.forall_mem_cons.1 resolves
      rw [lowerExprs?] at lowers
      split at lowers
      · rename_i lowersFirst lowersRest
        cases lowers
        exact ⟨isClosed_of_lowerExpr? lowersFirst inFirst,
          areClosed_of_lowerExprs? lowersRest inRest⟩
      · cases lowers

end

theorem isClosed_of_lowerOptional? {expression : Option Expr} {lowered : Option LoopExpr}
    (lowers : context.lowerOptional? expression = some lowered)
    (resolves : ∀ given ∈ expression, context.caller.Resolves functions (.expr given)) :
    ∀ given ∈ lowered, given.IsClosed context.caller.environment.library functions := by
  cases expression with
  | none =>
      cases lowers
      exact fun _ member => nomatch member
  | some expression =>
      simp only [lowerOptional?, Option.map_eq_some_iff] at lowers
      obtain ⟨lowerExpression, lowersExpression, rfl⟩ := lowers
      rintro given ⟨⟩
      exact isClosed_of_lowerExpr? lowersExpression (resolves _ rfl)

theorem isClosed_of_lowerAssign? {target value : Expr} {lowered : LoopStatement}
    {inFunction : Bool} {loops : List LoopKind}
    (lowers : context.lowerAssign? target value = some lowered)
    (inTarget : context.caller.Resolves functions (.expr target))
    (inValue : context.caller.Resolves functions (.expr value)) :
    lowered.IsClosed context.caller.environment.library functions inFunction loops := by
  simp only [lowerAssign?, Option.bind_eq_bind, Option.bind_eq_some_iff] at lowers
  obtain ⟨lowerValue, lowersValue, lowers⟩ := lowers
  have closedValue := isClosed_of_lowerExpr? lowersValue inValue
  split at lowers
  · cases lowers
    exact closedValue
  · rename_i function arguments
    have inArguments {argument : Expr} (member : argument ∈ arguments) :
        context.caller.Resolves functions (.expr argument) := inTarget.part (.argument member)
    split at lowers
    · split at lowers
      · have inStart := inArguments (.tail _ (.head _))
        simp only [Option.bind_eq_some_iff] at lowers
        obtain ⟨lowerStart, lowersStart, same⟩ := lowers
        cases same
        exact ⟨isClosed_of_lowerExpr? lowersStart inStart, by simp, closedValue⟩
      · have inStart := inArguments (.tail _ (.head _))
        have inLength := inArguments (.tail _ (.tail _ (.head _)))
        simp only [Option.bind_eq_some_iff] at lowers
        obtain ⟨lowerStart, lowersStart, lowerLength, lowersLength, same⟩ := lowers
        cases same
        refine ⟨isClosed_of_lowerExpr? lowersStart inStart, ?_, closedValue⟩
        rintro given ⟨⟩
        exact isClosed_of_lowerExpr? lowersLength inLength
      · cases lowers
    · split at lowers
      · simp only [Option.bind_eq_some_iff] at lowers
        obtain ⟨lowerIndices, lowersIndices, same⟩ := lowers
        cases same
        exact ⟨areClosed_of_lowerExprs? lowersIndices fun _ => inArguments, closedValue⟩
      · cases lowers
  · cases lowers

theorem areClosed_of_lowerDeclarations? : ∀ {declarations : List Declaration}
    {lowered : List LoopDeclaration},
    context.lowerDeclarations? declarations = some lowered →
    (∀ declaration ∈ declarations, ∀ bound ∈ declaration.bounds,
      context.caller.Resolves functions (.expr bound)) →
    ∀ declaration ∈ lowered,
      LoopExpr.AreClosed context.caller.environment.library functions declaration.bounds
  | [], lowered, lowers, _ => by
      cases lowers
      exact fun _ member => nomatch member
  | declaration :: rest, lowered, lowers, resolves => by
      obtain ⟨inFirst, inRest⟩ := List.forall_mem_cons.1 resolves
      simp only [lowerDeclarations?] at lowers
      split at lowers
      · rename_i first others lowersFirst lowersRest
        cases lowers
        simp only [lowerDeclaration?, Option.map_eq_some_iff] at lowersFirst
        obtain ⟨bounds, lowersBounds, rfl⟩ := lowersFirst
        intro lowerDeclaration member
        rcases List.mem_cons.1 member with rfl | later
        · exact areClosed_of_lowerExprs? lowersBounds inFirst
        · exact areClosed_of_lowerDeclarations? lowersRest inRest _ later
      · cases lowers

theorem isClosed_of_lowerExit? {loops : List LoopKind} {kind : ExitKind} {library : Library}
    {lowered : LoopStatement} (lowers : context.lowerExit? loops kind = some lowered) :
    lowered.IsClosed library functions context.locals.isSome loops := by
  unfold lowerExit? at lowers
  split at lowers <;> split at lowers <;> rename_i allowed <;> cases lowers
  · exact List.contains_iff_mem.1 allowed
  · exact List.contains_iff_mem.1 allowed
  · exact allowed
  · exact allowed

theorem isClosed_of_lowerCallStatement? {loops : List LoopKind} {expression : Expr}
    {inFunction : Bool} {lowered : LoopStatement}
    (lowers : context.lowerStatement? loops (.call expression) = some lowered)
    (resolves : context.caller.Resolves functions (.expr expression)) :
    lowered.IsClosed context.caller.environment.library functions inFunction loops := by
  cases expression
  case var name =>
    simp only [lowerStatement?, Option.map_eq_some_iff] at lowers
    obtain ⟨lowerName, lowersName, rfl⟩ := lowers
    exact isClosed_of_lowerName? lowersName resolves
  case call callee arguments =>
    simp only [lowerStatement?, Option.map_eq_some_iff] at lowers
    obtain ⟨lowerCall, lowersCall, rfl⟩ := lowers
    exact isClosed_of_lowerExpr? lowersCall resolves
  all_goals simp [lowerStatement?] at lowers

mutual

theorem isClosed_of_lowerStatement? : ∀ {loops : List LoopKind} {statement : Statement}
    {lowered : LoopStatement}, context.lowerStatement? loops statement = some lowered →
    context.caller.Resolves functions (.statement statement) →
    lowered.IsClosed context.caller.environment.library functions context.locals.isSome loops
  | loops, .dim declarations, lowered, lowers, resolves => by
      simp only [lowerStatement?, Option.map_eq_some_iff] at lowers
      obtain ⟨lowerDeclarations, lowersDeclarations, rfl⟩ := lowers
      exact areClosed_of_lowerDeclarations? lowersDeclarations fun _ declared _ member =>
        resolves.part (.bound declared member)
  | loops, .assign target value, lowered, lowers, resolves => by
      rw [lowerStatement?] at lowers
      exact isClosed_of_lowerAssign? lowers (resolves.part .target) (resolves.part .value)
  | loops, .call expression, lowered, lowers, resolves => by
      exact isClosed_of_lowerCallStatement? lowers (resolves.part .called)
  | loops, .branch arms otherwise, lowered, lowers, resolves => by
      simp only [lowerStatement?, Option.bind_eq_bind, Option.bind_eq_some_iff] at lowers
      obtain ⟨lowerArms, lowersArms, lowerOtherwise, lowersOtherwise, same⟩ := lowers
      cases same
      exact ⟨areClosedArms_of_lowerArms? lowersArms fun _ member =>
          resolves.part (Node.mem_children_iff.1 (List.mem_append_left _ member)),
        areClosed_of_lowerBlock? lowersOtherwise fun _ => (resolves.part <| .otherwise ·)⟩
  | loops, .forRange index start finish step body, lowered, lowers, resolves => by
      simp only [lowerStatement?, Option.bind_eq_bind, Option.bind_eq_some_iff] at lowers
      obtain ⟨lowerStart, lowersStart, lowerFinish, lowersFinish, lowerStep, lowersStep, lowerBody,
        lowersBody, same⟩ := lowers
      cases same
      exact ⟨isClosed_of_lowerExpr? lowersStart (resolves.part .start),
        isClosed_of_lowerExpr? lowersFinish (resolves.part .finish),
        isClosed_of_lowerOptional? lowersStep fun _ given => by
          cases given
          exact resolves.part .step,
        areClosed_of_lowerBlock? lowersBody fun _ => (resolves.part <| .inRange ·)⟩
  | loops, .forEach index items body, lowered, lowers, resolves => by
      simp only [lowerStatement?, Option.bind_eq_bind, Option.bind_eq_some_iff] at lowers
      obtain ⟨lowerItems, lowersItems, lowerBody, lowersBody, same⟩ := lowers
      cases same
      exact ⟨isClosed_of_lowerExpr? lowersItems (resolves.part .items),
        areClosed_of_lowerBlock? lowersBody fun _ => (resolves.part <| .inEach ·)⟩
  | loops, .whileLoop condition body, lowered, lowers, resolves => by
      simp only [lowerStatement?, Option.bind_eq_bind, Option.bind_eq_some_iff] at lowers
      obtain ⟨lowerCondition, lowersCondition, lowerBody, lowersBody, same⟩ := lowers
      cases same
      refine ⟨?_, areClosed_of_lowerBlock? lowersBody fun _ => (resolves.part <| .inWhile ·)⟩
      rintro given ⟨⟩
      exact isClosed_of_lowerExpr? lowersCondition (resolves.part .whileTest)
  | loops, .doLoop none testFirst body, lowered, lowers, resolves => by
      simp only [lowerStatement?, Option.bind_eq_bind, Option.bind_eq_some_iff] at lowers
      obtain ⟨lowerBody, lowersBody, same⟩ := lowers
      cases same
      exact ⟨fun _ member => (nomatch member),
        areClosed_of_lowerBlock? lowersBody fun _ => (resolves.part <| .inDo ·)⟩
  | loops, .doLoop (some (test, condition)) testFirst body, lowered, lowers, resolves => by
      simp only [lowerStatement?, Option.bind_eq_bind, Option.bind_eq_some_iff] at lowers
      obtain ⟨lowerCondition, lowersCondition, lowerBody, lowersBody, same⟩ := lowers
      cases same
      refine ⟨?_, areClosed_of_lowerBlock? lowersBody fun _ => (resolves.part <| .inDo ·)⟩
      rintro given ⟨⟩
      exact isClosed_of_lowerExpr? lowersCondition (resolves.part .doTest)
  | loops, .exit kind, lowered, lowers, _ => by
      rw [lowerStatement?] at lowers
      exact isClosed_of_lowerExit? lowers
  | loops, .withBlock .., lowered, lowers, _ | loops, .onError _, lowered, lowers, _
  | loops, .label _, lowered, lowers, _ | loops, .openFile .., lowered, lowers, _
  | loops, .writeFile .., lowered, lowers, _ | loops, .closeFiles _, lowered, lowers, _ => by
      simp [lowerStatement?] at lowers

theorem areClosedArms_of_lowerArms? : ∀ {loops : List LoopKind} {arms : List Arm}
    {lowered : List LoopArm}, context.lowerArms? loops arms = some lowered →
    (∀ child ∈ arms.flatMap Arm.nodes, context.caller.Resolves functions child) →
    LoopStatement.AreClosedArms context.caller.environment.library functions
      context.locals.isSome loops lowered
  | loops, [], lowered, lowers, _ => by
      simp only [lowerArms?, Option.some.injEq] at lowers
      subst lowers
      trivial
  | loops, arm :: rest, lowered, lowers, resolves => by
      obtain ⟨inFirst, inRest⟩ := List.forall_mem_append.1 resolves
      simp only [lowerArms?, Option.bind_eq_bind, Option.bind_eq_some_iff] at lowers
      obtain ⟨lowerFirst, lowersFirst, lowerRest, lowersRest, same⟩ := lowers
      cases same
      exact ⟨isClosedArm_of_lowerArm? lowersFirst inFirst,
        areClosedArms_of_lowerArms? lowersRest inRest⟩

theorem isClosedArm_of_lowerArm? : ∀ {loops : List LoopKind} {arm : Arm} {lowered : LoopArm},
    context.lowerArm? loops arm = some lowered →
    (∀ child ∈ arm.nodes, context.caller.Resolves functions child) →
    LoopStatement.IsClosedArm context.caller.environment.library functions
      context.locals.isSome loops lowered
  | loops, .mk condition body, lowered, lowers, resolves => by
      simp only [lowerArm?, Option.bind_eq_bind, Option.bind_eq_some_iff] at lowers
      obtain ⟨lowerCondition, lowersCondition, lowerBody, lowersBody, same⟩ := lowers
      cases same
      exact ⟨isClosed_of_lowerExpr? lowersCondition (resolves _ (.head _)),
        areClosed_of_lowerBlock? lowersBody fun _ member =>
          resolves _ (.tail _ (List.mem_map_of_mem member))⟩

theorem areClosed_of_lowerBlock? : ∀ {loops : List LoopKind} {statements : List Statement}
    {lowered : List LoopStatement}, context.lowerBlock? loops statements = some lowered →
    (∀ statement ∈ statements, context.caller.Resolves functions (.statement statement)) →
    LoopStatement.AreClosed context.caller.environment.library functions
      context.locals.isSome loops lowered
  | loops, [], lowered, lowers, _ => by
      simp only [lowerBlock?, Option.some.injEq] at lowers
      subst lowers
      trivial
  | loops, statement :: rest, lowered, lowers, resolves => by
      obtain ⟨inFirst, inRest⟩ := List.forall_mem_cons.1 resolves
      simp only [lowerBlock?, Option.bind_eq_bind, Option.bind_eq_some_iff] at lowers
      obtain ⟨lowerFirst, lowersFirst, lowerRest, lowersRest, same⟩ := lowers
      cases same
      exact ⟨isClosed_of_lowerStatement? lowersFirst inFirst,
        areClosed_of_lowerBlock? lowersRest inRest⟩

end

end LoweringContext

/-! ## Names of a program -/

structure ProgramNames.AreUsed (names : ProgramNames) : Prop where
  captures : ∀ name ∈ names.captures, name ∈ names.used
  shared : ∀ name ∈ names.shared, name ∈ names.used

namespace Caller

variable {caller : Caller}

theorem areUsed_loopNames (region : Node) : (caller.loopNames region).AreUsed where
  captures := by
    intro name captured
    simp only [loopNames, Std.TreeSet.mem_ofList, List.contains_iff_mem, List.mem_append,
      List.mem_filter] at captured ⊢
    rcases captured with ⟨written, notCallable⟩ | isReceiver
    · exact .inl (.inl ⟨.inr written, notCallable⟩)
    · exact .inr isReceiver
  shared := by simp [loopNames]

theorem areUsed_of_addUsedNames {locals : Std.TreeSet String} {writes : List String} :
    ∀ {used : List String} {names result : ProgramNames}, names.AreUsed →
      caller.addUsedNames locals writes used names = some result → result.AreUsed
  | [], names, result, areUsed, added => by
      cases added
      exact areUsed
  | other :: rest, names, result, areUsed, added => by
      rw [addUsedNames] at added
      split at added
      · exact areUsed_of_addUsedNames areUsed added
      split at added
      · exact areUsed_of_addUsedNames areUsed added
      split at added
      · cases added
      · refine areUsed_of_addUsedNames ⟨fun name captured => ?_, fun name shared => ?_⟩ added
        · rw [Std.TreeSet.mem_insert]
          split at captured
          · rw [Std.TreeSet.mem_insert] at captured
            exact captured.imp_right (areUsed.captures name)
          · exact .inr (areUsed.captures name captured)
        · rw [Std.TreeSet.mem_insert] at shared ⊢
          exact shared.imp_right (areUsed.shared name)

theorem areUsed_of_addProcedures : ∀ {procedures : List Procedure} {names result : ProgramNames},
    names.AreUsed → procedures.foldlM caller.addProcedure? names = some result → result.AreUsed
  | [], names, result, areUsed, added => by
      cases added
      exact areUsed
  | procedure :: rest, names, result, areUsed, added => by
      simp only [List.foldlM_cons, Option.bind_eq_bind, Option.bind_eq_some_iff] at added
      obtain ⟨middle, addedFirst, addedRest⟩ := added
      refine areUsed_of_addProcedures ?_ addedRest
      unfold addProcedure? at addedFirst
      split at addedFirst
      · cases addedFirst
      · simp only [Option.map_eq_some_iff] at addedFirst
        obtain ⟨extended, added, rfl⟩ := addedFirst
        have extendedUsed := areUsed_of_addUsedNames areUsed added
        exact ⟨extendedUsed.captures, extendedUsed.shared⟩

theorem names_of_prologue? {region : Node} : ∀ {names : List String}
    {values : List (String × Value)} {certain : List (String × DeclaredType)},
    caller.prologue? region names = some (values, certain) → values.map Prod.fst = names
  | [], values, certain, takes => by
      cases takes
      rfl
  | name :: rest, values, certain, takes => by
      rw [prologue?] at takes
      split at takes
      · rename_i takesRest
        cases takes
        rw [List.map_cons, names_of_prologue? takesRest]
      · cases takes

theorem exists_steps_of_lower? {loop : Statement} {lowered : Lowered}
    (lowers : caller.lower? loop = some lowered) :
    ∃ steps : Steps caller loop lowered, ∀ name ∈ lowered.program.shared,
      name ∈ steps.names.shared ∨ name ∈ steps.names.used := by
  simp only [lower?, Option.bind_eq_bind, Option.bind_eq_some_iff] at lowers
  obtain ⟨names, addsProcedures, ⟨values, certain⟩, takesValues, functions, lowersFunctions, body,
    lowersBody, same⟩ := lowers
  cases same
  refine ⟨⟨names, values, functions, addsProcedures, takesValues, lowersFunctions, lowersBody, rfl,
    rfl, rfl, rfl⟩, fun name shared => ?_⟩
  rw [Std.TreeSet.mem_insertMany_list] at shared
  refine shared.imp_right fun visible => ?_
  rw [List.contains_iff_mem, List.mem_filter, Std.TreeSet.mem_toList] at visible
  exact visible.1

private theorem exists_mem_of_mapM {α β : Type} {make : α → Option β} {source : α} :
    ∀ {sources : List α} {results : List β}, sources.mapM make = some results → source ∈ sources →
      ∃ made ∈ results, make source = some made
  | first :: rest, results, maps, member => by
      simp only [List.mapM_cons, Option.bind_eq_bind, Option.bind_eq_some_iff] at maps
      obtain ⟨made, makes, others, mapsRest, same⟩ := maps
      cases same
      rcases List.mem_cons.1 member with rfl | later
      · exact ⟨made, .head _, makes⟩
      · obtain ⟨found, inside, makesFound⟩ := exists_mem_of_mapM mapsRest later
        exact ⟨found, .tail _ inside, makesFound⟩

theorem contains_functions {loop : Statement} {lowered : Lowered}
    (steps : Steps caller loop lowered) {procedure : Procedure}
    (reachable : procedure ∈ (Node.statement loop).reachableProcedures caller.scope) :
    lowered.program.functions.contains (Text.asciiLower procedure.name) = true := by
  have listed : (procedure, caller.localNames procedure) ∈ steps.names.functions := by
    rw [(of_addProcedures steps.addsProcedures).2]
    exact List.mem_append_right _ (List.mem_map_of_mem reachable)
  obtain ⟨function, member, lowers⟩ := exists_mem_of_mapM steps.lowersFunctions listed
  simp only [LoweringContext.lowerProcedure?, Option.map_eq_some_iff] at lowers
  obtain ⟨body, -, rfl⟩ := lowers
  rw [steps.table, Std.TreeMap.contains_ofList, List.contains_iff_mem, List.map_map]
  exact List.mem_map_of_mem member

/-! ## Programs of loops -/

end Caller

def NameMap.RegistersProcedures (globals : NameMap Binding) : Prop :=
  ∀ name procedure, globals.get? name = some (.procedure procedure) →
    Text.asciiLower procedure.name = Text.asciiLower name

namespace NameMap.RegistersProcedures

theorem empty : ({} : NameMap Binding).RegistersProcedures := by
  intro name procedure found
  simp [NameMap.get?] at found

theorem setProcedure {state : State} (registers : state.run.globals.RegistersProcedures)
    (procedure : Procedure) : (state.setProcedure procedure).run.globals.RegistersProcedures := by
  intro name other found
  simp only [State.setProcedure, NameMap.get?_insert] at found
  split at found
  · rename_i same
    cases found
    exact same
  · exact registers name other found

end NameMap.RegistersProcedures

def Node.IsTrimmed (node : Node) : Prop :=
  ∀ name, .expr (.var name) ∈ node.nodes → Text.trim name = name

instance (node : Node) : Decidable node.IsTrimmed :=
  decidable_of_iff (node.nodes.all (fun inner => match inner with
      | .expr (.var name) => Text.trim name == name
      | _ => true) = true) <| by
    simp only [List.all_eq_true]
    constructor
    · exact fun trimmed name member => eq_of_beq (trimmed _ member)
    · intro trimmed inner member
      split
      · exact beq_iff_eq.2 (trimmed _ member)
      · rfl

namespace Caller

variable {caller : Caller} {loop : Statement} {lowered : Lowered}

theorem contains_of_reachable (steps : Steps caller loop lowered)
    (registers : caller.globals.RegistersProcedures) {name : String} {procedure : Procedure}
    (trimmed : Text.trim name = name) (found : caller.scope.procedure? name = some procedure)
    (reachable : procedure ∈ (Node.statement loop).reachableProcedures caller.scope) :
    lowered.program.functions.contains (Text.asciiLower name) = true := by
  rw [Scope.procedure?_eq_some_iff, trimmed] at found
  rw [← registers name procedure found]
  exact contains_functions steps reachable

theorem mem_mentions {node : Node} {name : String} (contains : node.Contains (.expr (.var name))) :
    Text.asciiLower name ∈ node.mentions :=
  List.mem_filterMap.2 ⟨_, Node.mem_nodes_iff.2 contains, rfl⟩

theorem resolves_loop (steps : Steps caller loop lowered)
    (registers : caller.globals.RegistersProcedures)
    (trimmed : (Node.statement loop).IsTrimmed) :
    caller.Resolves lowered.program.functions (.statement loop) := by
  intro name contains isProcedure
  obtain ⟨procedure, found⟩ := Option.isSome_iff_exists.1 isProcedure
  have isTrimmed := trimmed name (Node.mem_nodes_iff.2 contains)
  refine contains_of_reachable steps registers isTrimmed found ?_
  apply Node.mem_reachableProcedures_of_mentions (mem_mentions contains)
  rw [Scope.procedure?_asciiLower, found]

theorem resolves_procedure (steps : Steps caller loop lowered)
    (registers : caller.globals.RegistersProcedures) {procedure : Procedure}
    (reachable : procedure ∈ (Node.statement loop).reachableProcedures caller.scope)
    (trimmed : (Node.procedure procedure).IsTrimmed) :
    caller.Resolves lowered.program.functions (.procedure procedure) := by
  intro name contains isProcedure
  obtain ⟨called, found⟩ := Option.isSome_iff_exists.1 isProcedure
  have isTrimmed := trimmed name (Node.mem_nodes_iff.2 contains)
  refine contains_of_reachable steps registers isTrimmed found ?_
  apply Node.mem_reachableProcedures_of_reachable reachable (mem_mentions contains)
  rw [Scope.procedure?_asciiLower, found]

theorem isClosed_of_lower? (registers : caller.globals.RegistersProcedures)
    (trimmed : (Node.statement loop).IsTrimmed)
    (proceduresTrimmed : ∀ name procedure, caller.globals.get? name = some (.procedure procedure) →
      (Node.procedure procedure).IsTrimmed)
    (lowers : caller.lower? loop = some lowered) :
    lowered.program.IsClosed caller.environment.library := by
  obtain ⟨steps, shares⟩ := exists_steps_of_lower? lowers
  have areUsed := areUsed_of_addProcedures (areUsed_loopNames _) steps.addsProcedures
  have inPrologue {name : String} (used : name ∈ steps.names.used) :
      name ∈ lowered.program.prologue := by
    rw [steps.prologue, Std.TreeMap.mem_ofList, names_of_prologue? steps.takesValues,
      List.contains_iff_mem, Std.TreeSet.mem_toList]
    exact used
  -- Captures and shared names are variables; the body and the functions resolve what they mention.
  refine ⟨fun name captured => ?_, fun name shared => ?_, ?_, fun name function found => ?_⟩
  · rw [steps.captures] at captured
    exact inPrologue (areUsed.captures name captured)
  · rcases shares name shared with isShared | isUsed
    · exact inPrologue (areUsed.shared name isShared)
    · exact inPrologue isUsed
  · exact LoweringContext.isClosed_of_lowerStatement? steps.lowersBody
      (resolves_loop steps registers trimmed)
  · obtain ⟨procedure, reachable, lowersProcedure⟩ := exists_of_functions_get? steps found
    have procedureTrimmed : (Node.procedure procedure).IsTrimmed := by
      obtain ⟨spelling, found⟩ := Node.exists_of_mem_reachableProcedures reachable
      exact proceduresTrimmed _ _ (Scope.procedure?_eq_some_iff.1 found)
    have resolves := resolves_procedure steps registers reachable procedureTrimmed
    simp only [LoweringContext.lowerProcedure?, Option.map_eq_some_iff] at lowersProcedure
    obtain ⟨body, lowersBody, rfl⟩ := lowersProcedure
    exact LoweringContext.areClosed_of_lowerBlock? lowersBody fun _ => (resolves.part <| .ofBody ·)

end Caller

end MacroSandbox
