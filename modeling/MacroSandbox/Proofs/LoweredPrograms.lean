import MacroSandbox.Loop.Lowering
import MacroSandbox.Proofs.Confinement
import MacroSandbox.Proofs.Parts

/-! What the program of a loop is made of: the statements that it assigns in, the functions that it
holds, and the names that go back to the caller. -/

namespace MacroSandbox

/-! ## From statements to their programs -/

namespace Node

def dollarTarget? : Node → Option String
  | .statement (.assign (.call (.var function) (.var name :: _)) _) =>
      if Text.sameIgnoringCase function "mid$" then some (Text.asciiLower name) else none
  | _ => none

def declaredHere : Node → List String
  | .statement (.dim declarations) => declarations.map fun declaration =>
      Text.asciiLower declaration.name
  | _ => []

def Touches (declares : Bool) (name : String) (node : Node) : Prop :=
  node.writtenName? = some name ∨ node.dollarTarget? = some name ∨
    (declares = true ∧ name ∈ node.declaredHere)

end Node

namespace LoweringContext

variable {context : LoweringContext} {declares : Bool} {name : String}

theorem name_of_lowerDeclaration? {declaration : Declaration} {lowered : LoopDeclaration}
    (lowers : context.lowerDeclaration? declaration = some lowered) :
    lowered.name = Text.asciiLower declaration.name := by
  simp only [lowerDeclaration?, Option.map_eq_some_iff] at lowers
  obtain ⟨bounds, _, rfl⟩ := lowers
  rfl

theorem names_of_lowerDeclarations? : ∀ {declarations : List Declaration}
    {lowered : List LoopDeclaration}, context.lowerDeclarations? declarations = some lowered →
    lowered.map (·.name) = declarations.map fun declaration => Text.asciiLower declaration.name
  | [], lowered, lowers => by
      cases lowers
      rfl
  | declaration :: rest, lowered, lowers => by
      simp only [lowerDeclarations?] at lowers
      split at lowers
      · rename_i first others lowersFirst lowersRest
        cases lowers
        simp only [List.map_cons, name_of_lowerDeclaration? lowersFirst,
          names_of_lowerDeclarations? lowersRest]
      · cases lowers

theorem touches_of_lowerAssign? {target value : Expr} {lowered : LoopStatement}
    (lowers : context.lowerAssign? target value = some lowered)
    (member : name ∈ lowered.targets declares) :
    (Node.statement (.assign target value)).Touches declares name := by
  simp only [lowerAssign?, Option.bind_eq_bind, Option.bind_eq_some_iff] at lowers
  obtain ⟨lowerValue, _, lowers⟩ := lowers
  split at lowers
  · cases lowers
    simp only [LoopStatement.targets, List.mem_singleton] at member
    subst member
    exact .inl rfl
  · rename_i function arguments
    split at lowers
    · rename_i overwrites
      have touched {variableName : String} {rest : List Expr}
          (same : arguments = .var variableName :: rest)
          (isTarget : name = Text.asciiLower variableName) :
          (Node.statement (.assign (.call (.var function) arguments) value)).Touches declares
            name := by
        subst same isTarget
        by_cases isMid : Text.sameIgnoringCase function "mid" = true
        · exact .inl (by simp [Node.writtenName?, Expr.assignedName?, Expr.overwrittenName?, isMid])
        · have isDollar : Text.sameIgnoringCase function "mid$" = true := by
            simpa [isOverwrite, isMid] using overwrites
          exact .inr (.inl (by simp [Node.dollarTarget?, isDollar]))
      split at lowers
      · simp only [Option.bind_eq_some_iff] at lowers
        obtain ⟨start, _, same⟩ := lowers
        cases same
        simp only [LoopStatement.targets, List.mem_singleton] at member
        exact touched rfl member
      · simp only [Option.bind_eq_some_iff] at lowers
        obtain ⟨start, _, length, _, same⟩ := lowers
        cases same
        simp only [LoopStatement.targets, List.mem_singleton] at member
        exact touched rfl member
      · cases lowers
    · rename_i overwritesNothing
      split at lowers
      · simp only [Option.bind_eq_some_iff] at lowers
        obtain ⟨indices, _, same⟩ := lowers
        cases same
        simp only [LoopStatement.targets, List.mem_singleton] at member
        subst member
        have notMid : Text.sameIgnoringCase function "mid" = false := by
          simp only [isOverwrite, Bool.or_eq_true, not_or] at overwritesNothing
          simpa using overwritesNothing.1
        exact .inl (by simp [Node.writtenName?, Expr.assignedName?, notMid])
      · cases lowers
  · cases lowers

private theorem targets_of_lowerCall? {loops : List LoopKind} {expression : Expr}
    {lowered : LoopStatement}
    (lowers : context.lowerStatement? loops (.call expression) = some lowered) :
    lowered.targets declares = [] := by
  cases expression
  case var | call =>
    simp only [lowerStatement?, Option.map_eq_some_iff] at lowers
    obtain ⟨_, _, rfl⟩ := lowers
    rfl
  all_goals simp [lowerStatement?] at lowers

private theorem targets_of_lowerExit? {loops : List LoopKind} {kind : ExitKind}
    {lowered : LoopStatement} (lowers : context.lowerExit? loops kind = some lowered) :
    lowered.targets declares = [] := by
  unfold lowerExit? at lowers
  split at lowers <;> split at lowers <;> cases lowers <;> rfl

mutual

/-- Whatever the program of a statement assigns to is touched by a node of the statement. -/
theorem exists_touches_of_lowerStatement? : ∀ {loops : List LoopKind} (statement : Statement)
    {lowered : LoopStatement}, context.lowerStatement? loops statement = some lowered →
    name ∈ lowered.targets declares →
    ∃ node ∈ (Node.statement statement).nodes, node.Touches declares name
  | loops, .dim declarations, lowered, lowers, member => by
      simp only [lowerStatement?, Option.map_eq_some_iff] at lowers
      obtain ⟨lowerDeclarations, lowers, rfl⟩ := lowers
      simp only [LoopStatement.targets, names_of_lowerDeclarations? lowers] at member
      split at member
      · rename_i does
        exact ⟨_, Node.self_mem_nodes _, .inr (.inr ⟨does, member⟩)⟩
      · cases member
  | loops, .assign target value, lowered, lowers, member => by
      rw [lowerStatement?] at lowers
      exact ⟨_, Node.self_mem_nodes _, touches_of_lowerAssign? lowers member⟩
  | loops, .call expression, lowered, lowers, member => by
      simp [targets_of_lowerCall? lowers] at member
  | loops, .branch arms otherwise, lowered, lowers, member => by
      simp only [lowerStatement?, Option.bind_eq_bind, Option.bind_eq_some_iff] at lowers
      obtain ⟨lowerArms, lowersArms, lowerOtherwise, lowersOtherwise, same⟩ := lowers
      cases same
      simp only [LoopStatement.targets, List.mem_append] at member
      rcases member with inArms | inOtherwise
      · obtain ⟨child, member, node, inside, touches⟩ :=
          exists_touches_of_lowerArms? arms lowersArms inArms
        exact ⟨node, Node.mem_nodes_of_child (List.mem_append_left _ member) inside, touches⟩
      · obtain ⟨node, inside, touches⟩ :=
          exists_touches_of_lowerBlock? otherwise lowersOtherwise inOtherwise
        exact ⟨node, Node.mem_nodes_of_body (fun _ => .otherwise) inside, touches⟩
  | loops, .forRange index start finish step body, lowered, lowers, member => by
      simp only [lowerStatement?, Option.bind_eq_bind, Option.bind_eq_some_iff] at lowers
      obtain ⟨_, _, _, _, _, _, lowerBody, lowersBody, same⟩ := lowers
      cases same
      simp only [LoopStatement.targets, List.mem_cons] at member
      rcases member with rfl | inBody
      · exact ⟨_, Node.self_mem_nodes _, .inl rfl⟩
      · obtain ⟨node, inside, touches⟩ := exists_touches_of_lowerBlock? body lowersBody inBody
        exact ⟨node, Node.mem_nodes_of_body (fun _ => .inRange) inside, touches⟩
  | loops, .forEach index items body, lowered, lowers, member => by
      simp only [lowerStatement?, Option.bind_eq_bind, Option.bind_eq_some_iff] at lowers
      obtain ⟨_, _, lowerBody, lowersBody, same⟩ := lowers
      cases same
      simp only [LoopStatement.targets, List.mem_cons] at member
      rcases member with rfl | inBody
      · exact ⟨_, Node.self_mem_nodes _, .inl rfl⟩
      · obtain ⟨node, inside, touches⟩ := exists_touches_of_lowerBlock? body lowersBody inBody
        exact ⟨node, Node.mem_nodes_of_body (fun _ => .inEach) inside, touches⟩
  | loops, .whileLoop condition body, lowered, lowers, member => by
      simp only [lowerStatement?, Option.bind_eq_bind, Option.bind_eq_some_iff] at lowers
      obtain ⟨_, _, lowerBody, lowersBody, same⟩ := lowers
      cases same
      rw [LoopStatement.targets] at member
      obtain ⟨node, inside, touches⟩ := exists_touches_of_lowerBlock? body lowersBody member
      exact ⟨node, Node.mem_nodes_of_body (fun _ => .inWhile) inside, touches⟩
  | loops, .doLoop none testFirst body, lowered, lowers, member => by
      simp only [lowerStatement?, Option.bind_eq_bind, Option.bind_eq_some_iff] at lowers
      obtain ⟨lowerBody, lowersBody, same⟩ := lowers
      cases same
      rw [LoopStatement.targets] at member
      obtain ⟨node, inside, touches⟩ := exists_touches_of_lowerBlock? body lowersBody member
      exact ⟨node, Node.mem_nodes_of_body (fun _ => .inDo) inside, touches⟩
  | loops, .doLoop (some (test, condition)) testFirst body, lowered, lowers, member => by
      simp only [lowerStatement?, Option.bind_eq_bind, Option.bind_eq_some_iff] at lowers
      obtain ⟨_, _, lowerBody, lowersBody, same⟩ := lowers
      cases same
      rw [LoopStatement.targets] at member
      obtain ⟨node, inside, touches⟩ := exists_touches_of_lowerBlock? body lowersBody member
      exact ⟨node, Node.mem_nodes_of_body (fun _ => .inDo) inside, touches⟩
  | loops, .exit kind, lowered, lowers, member => by
      rw [lowerStatement?] at lowers
      simp [targets_of_lowerExit? lowers] at member
  | loops, .withBlock .., lowered, lowers, _ | loops, .onError _, lowered, lowers, _
  | loops, .label _, lowered, lowers, _ | loops, .openFile .., lowered, lowers, _
  | loops, .writeFile .., lowered, lowers, _ | loops, .closeFiles _, lowered, lowers, _ => by
      simp [lowerStatement?] at lowers

theorem exists_touches_of_lowerArms? : ∀ {loops : List LoopKind} (arms : List Arm)
    {lowered : List LoopArm}, context.lowerArms? loops arms = some lowered →
    name ∈ LoopStatement.targetsOfArms declares lowered →
    ∃ child ∈ arms.flatMap Arm.nodes, ∃ node ∈ child.nodes, node.Touches declares name
  | loops, [], lowered, lowers, member => by
      simp only [lowerArms?, Option.some.injEq] at lowers
      subst lowers
      simp [LoopStatement.targetsOfArms] at member
  | loops, arm :: rest, lowered, lowers, member => by
      simp only [lowerArms?, Option.bind_eq_bind, Option.bind_eq_some_iff] at lowers
      obtain ⟨lowerFirst, lowersFirst, lowerRest, lowersRest, same⟩ := lowers
      cases same
      simp only [LoopStatement.targetsOfArms, List.mem_append] at member
      rcases member with inFirst | inRest
      · obtain ⟨child, member, touched⟩ := exists_touches_of_lowerArm? arm lowersFirst inFirst
        exact ⟨child, List.mem_flatMap.2 ⟨arm, .head _, member⟩, touched⟩
      · obtain ⟨child, member, touched⟩ := exists_touches_of_lowerArms? rest lowersRest inRest
        obtain ⟨other, later, inOther⟩ := List.mem_flatMap.1 member
        exact ⟨child, List.mem_flatMap.2 ⟨other, .tail _ later, inOther⟩, touched⟩

theorem exists_touches_of_lowerArm? : ∀ {loops : List LoopKind} (arm : Arm)
    {lowered : LoopArm}, context.lowerArm? loops arm = some lowered →
    name ∈ LoopStatement.targetsOfArm declares lowered →
    ∃ child ∈ arm.nodes, ∃ node ∈ child.nodes, node.Touches declares name
  | loops, .mk condition body, lowered, lowers, member => by
      simp only [lowerArm?, Option.bind_eq_bind, Option.bind_eq_some_iff] at lowers
      obtain ⟨_, _, lowerBody, lowersBody, same⟩ := lowers
      cases same
      rw [LoopStatement.targetsOfArm] at member
      obtain ⟨node, inside, touches⟩ := exists_touches_of_lowerBlock? body lowersBody member
      obtain ⟨statement, inBody, inside⟩ := Statement.mem_nodesOfList_iff.1 inside
      exact ⟨_, .tail _ (List.mem_map_of_mem inBody), node, inside, touches⟩

theorem exists_touches_of_lowerBlock? : ∀ {loops : List LoopKind} (statements : List Statement)
    {lowered : List LoopStatement}, context.lowerBlock? loops statements = some lowered →
    name ∈ LoopStatement.targetsOfBlock declares lowered →
    ∃ node ∈ Statement.nodesOfList statements, node.Touches declares name
  | loops, [], lowered, lowers, member => by
      simp only [lowerBlock?, Option.some.injEq] at lowers
      subst lowers
      simp [LoopStatement.targetsOfBlock] at member
  | loops, statement :: rest, lowered, lowers, member => by
      simp only [lowerBlock?, Option.bind_eq_bind, Option.bind_eq_some_iff] at lowers
      obtain ⟨lowerFirst, lowersFirst, lowerRest, lowersRest, same⟩ := lowers
      cases same
      simp only [LoopStatement.targetsOfBlock, List.mem_append] at member
      rcases member with inFirst | inRest
      · obtain ⟨node, inside, touches⟩ :=
          exists_touches_of_lowerStatement? statement lowersFirst inFirst
        exact ⟨node, List.mem_append_left _ inside, touches⟩
      · obtain ⟨node, inside, touches⟩ := exists_touches_of_lowerBlock? rest lowersRest inRest
        exact ⟨node, List.mem_append_right _ inside, touches⟩

end

end LoweringContext

/-! ## Names that go back to the caller -/

namespace Caller

variable {caller : Caller}

def SeesWrite (caller : Caller) (procedure : Procedure) (name : String) : Prop :=
  name ∈ (Node.procedure procedure).writes ∧ (caller.localNames procedure).contains name = false ∧
    (caller.scope.getGlobal name).toBool = true

theorem captures_of_addUsedNames {locals : Std.TreeSet String} {writes : List String}
    {name : String} : ∀ {used : List String} {names result : ProgramNames},
      caller.addUsedNames locals writes used names = some result →
      (name ∈ result.captures ↔ name ∈ names.captures ∨
        (name ∈ used ∧ name ∈ writes ∧ locals.contains name = false ∧
          (caller.scope.getGlobal name).toBool = true))
  | [], names, result, added => by
      simp only [addUsedNames, Option.some.injEq] at added
      subst added
      simp
  | other :: rest, names, result, added => by
      rw [addUsedNames] at added
      split at added
      · rename_i isLocal
        rw [captures_of_addUsedNames added]
        refine or_congr_right ⟨fun seen => ⟨.tail _ seen.1, seen.2⟩, fun seen => ⟨?_, seen.2⟩⟩
        rcases List.mem_cons.1 seen.1 with rfl | later
        · simp [isLocal] at seen
        · exact later
      · rename_i notLocal
        split at added
        · rename_i fault undefined
          rw [captures_of_addUsedNames added]
          refine or_congr_right ⟨fun seen => ⟨.tail _ seen.1, seen.2⟩, fun seen => ⟨?_, seen.2⟩⟩
          rcases List.mem_cons.1 seen.1 with rfl | later
          · simp [undefined, Except.toBool] at seen
          · exact later
        · rename_i global defined
          split at added
          · cases added
          · rw [captures_of_addUsedNames added]
            -- Only the name at hand is added, if it is written and global.
            by_cases same : name = other
            · subst same
              have written : writes.contains name = true ↔ name ∈ writes := by simp
              simp only [defined, Except.toBool, List.mem_cons, true_or, true_and, and_true,
                written, notLocal]
              split <;> rename_i isWritten <;> simp_all
            · have inserted : name ∈ names.captures.insert other ↔ name ∈ names.captures := by
                simp [Std.TreeSet.mem_insert, Ne.symm same]
              simp only [List.mem_cons, same, false_or]
              split
              · rw [inserted]
              · rfl

theorem functions_of_addUsedNames {locals : Std.TreeSet String} {writes : List String} :
    ∀ {used : List String} {names result : ProgramNames},
      caller.addUsedNames locals writes used names = some result →
      result.functions = names.functions
  | [], names, result, added => by
      simp only [addUsedNames, Option.some.injEq] at added
      rw [added]
  | other :: rest, names, result, added => by
      rw [addUsedNames] at added
      split at added
      · exact functions_of_addUsedNames added
      · split at added
        · exact functions_of_addUsedNames added
        · split at added
          · cases added
          · rw [functions_of_addUsedNames added]

theorem mem_sortedNames {name : String} {names : List String} :
    name ∈ sortedNames names ↔ name ∈ names := by
  simp [sortedNames, Std.TreeSet.mem_toList, Std.TreeSet.mem_ofList]

theorem of_addProcedure? {names result : ProgramNames} {procedure : Procedure}
    (added : caller.addProcedure? names procedure = some result) :
    (∀ name, name ∈ result.captures ↔
        name ∈ names.captures ∨ caller.SeesWrite procedure name) ∧
      result.functions = names.functions ++ [(procedure, caller.localNames procedure)] := by
  unfold addProcedure? at added
  split at added
  · cases added
  · simp only [Option.map_eq_some_iff] at added
    obtain ⟨middle, added, rfl⟩ := added
    refine ⟨fun name => ?_, by rw [functions_of_addUsedNames added]⟩
    rw [captures_of_addUsedNames added]
    refine or_congr_right ⟨fun seen => seen.2, fun seen => ⟨?_, seen⟩⟩
    simp only [List.mem_append, mem_sortedNames]
    exact .inr seen.1

theorem of_addProcedures : ∀ {procedures : List Procedure} {names result : ProgramNames},
    procedures.foldlM caller.addProcedure? names = some result →
    (∀ name, name ∈ result.captures ↔
        name ∈ names.captures ∨ ∃ procedure ∈ procedures, caller.SeesWrite procedure name) ∧
      result.functions =
        names.functions ++ procedures.map fun procedure => (procedure, caller.localNames procedure)
  | [], names, result, added => by
      cases added
      simp
  | procedure :: rest, names, result, added => by
      simp only [List.foldlM_cons, Option.bind_eq_bind, Option.bind_eq_some_iff] at added
      obtain ⟨middle, addedFirst, addedRest⟩ := added
      have first := of_addProcedure? addedFirst
      have others := of_addProcedures addedRest
      refine ⟨fun name => ?_, by simp [others.2, first.2]⟩
      rw [others.1, first.1]
      simp [or_assoc]

/-! ## Programs -/

/-- A name is recorded as written by a loop: the loop writes it and it cannot be called, it is the
object of the innermost `With` block, or a procedure that the loop may call writes it as a global
name. -/
def Records (caller : Caller) (loop : Statement) (name : String) : Prop :=
  (name ∈ (Node.statement loop).writes ∧ caller.isCallable name = false) ∨
    caller.receiverVariable? = some name ∨
    ∃ procedure ∈ (Node.statement loop).reachableProcedures caller.scope,
      caller.SeesWrite procedure name

structure Steps (caller : Caller) (loop : Statement) (lowered : Lowered) where
  names : ProgramNames
  values : List (String × Value)
  functions : List LoopFunction
  addsProcedures : ((Node.statement loop).reachableProcedures caller.scope).foldlM
    caller.addProcedure? (caller.loopNames (Node.statement loop)) = some names
  takesValues : caller.prologue? (Node.statement loop) names.used.toList =
    some (values, lowered.certain)
  lowersFunctions : (names.functions.mapM fun (procedure, locals) =>
    LoweringContext.lowerProcedure? ⟨caller, Std.TreeMap.ofList values, none, none⟩ procedure
      locals) = some functions
  lowersBody : LoweringContext.lowerStatement? ⟨caller, Std.TreeMap.ofList values, none, none⟩ []
    loop = some lowered.program.body
  prologue : lowered.program.prologue = Std.TreeMap.ofList values
  types : lowered.program.types = Std.TreeMap.ofList (caller.programTypes names.used.toList)
  table : lowered.program.functions =
    Std.TreeMap.ofList (functions.map fun function => (function.name, function))
  captures : lowered.program.captures = names.captures

theorem steps_of_lower? {loop : Statement} {lowered : Lowered}
    (lowers : caller.lower? loop = some lowered) : Nonempty (Steps caller loop lowered) := by
  simp only [lower?, Option.bind_eq_bind, Option.bind_eq_some_iff] at lowers
  obtain ⟨names, addsProcedures, ⟨values, certain⟩, takesValues, functions, lowersFunctions, body,
    lowersBody, same⟩ := lowers
  cases same
  exact ⟨⟨names, values, functions, addsProcedures, takesValues, lowersFunctions, lowersBody, rfl,
    rfl, rfl, rfl⟩⟩

theorem mem_captures_iff {loop : Statement} {lowered : Lowered} (steps : Steps caller loop lowered)
    (name : String) : name ∈ lowered.program.captures ↔ caller.Records loop name := by
  rw [steps.captures, (of_addProcedures steps.addsProcedures).1, Records]
  have inLoop : name ∈ (caller.loopNames (Node.statement loop)).captures ↔
      (name ∈ (Node.statement loop).writes ∧ caller.isCallable name = false) ∨
        caller.receiverVariable? = some name := by
    simp [loopNames, Std.TreeSet.mem_ofList]
  rw [inLoop, or_assoc]

private theorem exists_of_mem_mapM {α β : Type} {make : α → Option β} {made : β} :
    ∀ {sources : List α} {results : List β}, sources.mapM make = some results → made ∈ results →
      ∃ source ∈ sources, make source = some made
  | [], results, maps, member => by
      cases maps
      cases member
  | source :: rest, results, maps, member => by
      simp only [List.mapM_cons, Option.bind_eq_bind, Option.bind_eq_some_iff] at maps
      obtain ⟨first, makes, others, mapsRest, same⟩ := maps
      cases same
      rcases List.mem_cons.1 member with rfl | later
      · exact ⟨source, .head _, makes⟩
      · obtain ⟨found, inside, makesFound⟩ := exists_of_mem_mapM mapsRest later
        exact ⟨found, .tail _ inside, makesFound⟩

theorem exists_of_functions_get? {loop : Statement} {lowered : Lowered}
    (steps : Steps caller loop lowered) {name : String} {function : LoopFunction}
    (found : lowered.program.functions.get? name = some function) :
    ∃ procedure ∈ (Node.statement loop).reachableProcedures caller.scope,
      LoweringContext.lowerProcedure? ⟨caller, Std.TreeMap.ofList steps.values, none, none⟩ procedure
        (caller.localNames procedure) = some function := by
  have listed : function ∈ steps.functions := by
    rw [steps.table] at found
    obtain ⟨listed, member, same⟩ := List.mem_map.1 (mem_of_get?_ofList found)
    cases same
    exact member
  obtain ⟨⟨procedure, locals⟩, inNames, lowers⟩ := exists_of_mem_mapM steps.lowersFunctions listed
  rw [(of_addProcedures steps.addsProcedures).2] at inNames
  simp only [loopNames, List.nil_append, List.mem_map, Prod.mk.injEq] at inNames
  obtain ⟨reached, inside, rfl, rfl⟩ := inNames
  exact ⟨reached, inside, lowers⟩

end Caller

end MacroSandbox
