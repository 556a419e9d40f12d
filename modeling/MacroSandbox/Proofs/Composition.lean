import MacroSandbox.Emulator
import MacroSandbox.Proofs.Faults
import MacroSandbox.Proofs.Parts

/-! Evaluations are composed of a few kinds of steps.

What holds of every step, and is kept where evaluations follow one another or stand inside of one
another, holds of everything that the interpreter does. The induction over statements, expressions
and calls is made here, once. -/

namespace MacroSandbox

/-! ## What an evaluation does about errors -/

/-- What an evaluation does about the errors of its frame. -/
inductive ErrorRole
  | raises
  | directs
  | handles
  deriving DecidableEq

def ErrorRole.Admits (role : ErrorRole) (nodes : List Node) : Prop :=
  role = .raises → ∀ target, Node.statement (.onError target) ∉ nodes

namespace ErrorRole

theorem admits_directs (nodes : List Node) : directs.Admits nodes :=
  nofun

theorem admits_handles (nodes : List Node) : handles.Admits nodes :=
  nofun

namespace Admits

variable {role : ErrorRole} {nodes inner : List Node}

theorem mono (admits : role.Admits nodes) (inside : ∀ node ∈ inner, node ∈ nodes) :
    role.Admits inner :=
  fun same target member => admits same target (inside _ member)

theorem body {node : Node} {statements : List Statement} (admits : role.Admits node.nodes)
    (parts : ∀ statement ∈ statements, node.HasPart (.statement statement)) :
    role.Admits (Statement.nodesOfList statements) :=
  admits.mono fun _ => Node.mem_nodes_of_body parts

theorem head {statement : Statement} {rest : List Statement}
    (admits : role.Admits (Statement.nodesOfList (statement :: rest))) :
    role.Admits (Node.statement statement).nodes :=
  admits.mono fun _ inside =>
    Statement.mem_nodesOfList_iff.2 ⟨statement, .head _, inside⟩

theorem tail {statement : Statement} {rest : List Statement}
    (admits : role.Admits (Statement.nodesOfList (statement :: rest))) :
    role.Admits (Statement.nodesOfList rest) :=
  admits.mono fun _ => List.mem_append_right _

end Admits

end ErrorRole

/-! ## Kinds of actions -/

/-- The kinds of the actions that announce a procedure before it is run. Nothing that is evaluated reports
an action of these kinds. -/
def announcementKinds : List String :=
  ["Found Entry Point", "Found Heuristic Entry Point"]

theorem Text.isLower_toUpper (character : Char) : character.toUpper.isLower = false := by
  unfold Char.toUpper Char.isLower
  split
  · rename_i isLower
    simp only [UInt32.le_iff_toNat_le, Char.reduceVal, UInt32.reduceToNat] at isLower
    simp only [ge_iff_le, UInt32.le_iff_toNat_le, UInt32.toNat_add, Char.reduceVal,
      UInt32.reduceSub, UInt32.reduceToNat, Bool.and_eq_false_iff, decide_eq_false_iff_not]
    omega
  · rename_i notLower
    rw [Bool.and_eq_false_iff, decide_eq_false_iff_not, decide_eq_false_iff_not]
    exact Decidable.not_and_iff_or_not.1 notLower

theorem Text.asciiUpper_not_mem_announcementKinds (text : String) :
    asciiUpper text ∉ announcementKinds := by
  have noSmall (character : Char) (member : character ∈ (asciiUpper text).toList) :
      character.isLower = false := by
    rw [asciiUpper, toList_map] at member
    obtain ⟨before, -, rfl⟩ := List.mem_map.1 member
    exact isLower_toUpper before
  intro member
  simp only [announcementKinds, List.mem_cons, List.not_mem_nil, or_false] at member
  have small : 'o' ∈ (asciiUpper text).toList := by
    rcases member with same | same <;> rw [same] <;> decide
  cases noSmall 'o' small

/-! ## Kinds of steps -/

/-- What evaluations see of a state: they depend neither on the ticks of the limiter nor on what was
sent to the listener, and only the steps that ask the caches depend on the caches. -/
def State.visible (state : State) : State :=
  { state with caches := {}, run.sink := none, run.limiter.ticks := 0 }

namespace Eval

inductive IsStep : {α : Type} → Eval α → Prop
  | raise {α : Type} (fault : Fault) (ordinary : fault.isFatal = false) :
      IsStep (Eval.raise fault : Eval α)
  | exhaust {α : Type} : IsStep (throw .exhausted : Eval α)
  | tick : IsStep Eval.tick
  | check : IsStep Eval.check
  | onHeap {α : Type} (compute : Heap → Except Fault α × Heap)
      (ordinary : ∀ heap, IsOrdinary (compute heap).1) : IsStep (Eval.onHeap compute)
  | changeHeap (change : Heap → Heap) :
      IsStep (modify fun state => { state with heap := change state.heap } : Eval Unit)
  | assign (placement : Placement) (type : Option DeclaredType) (name : String) (value : Value) :
      IsStep (Eval.assignVariable placement type name value)
  | bindProcedure (procedure : Procedure) :
      IsStep (modify fun state => state.setProcedure procedure : Eval Unit)
  | report (kind value description : String) (quiet : kind ∉ announcementKinds) :
      IsStep (Eval.report kind value description)
  | setError (fault : Fault) : IsStep (Eval.setError fault)
  | raisePending : IsStep (Eval.modifyFrame Frame.raisePending)
  | clearErrorInfo : IsStep Eval.clearErrorInfo
  | setLabels (body : List Statement) :
      IsStep (Eval.modifyFrame fun frame => { frame with labelled := labelledBlocks body {} })
  | openFile (name : String) (number : Option String) : IsStep (Eval.openFile name number)
  | writeFile (number : String) (value : Value) : IsStep (Eval.writeFile number value)
  | closeFile (number : String) : IsStep (Eval.closeFile number)
  | writeMemory (move : Move) : IsStep (Eval.writeMemory move)

inductive IsErrorStep : ErrorRole → Eval Unit → Prop
  | setTarget {role : ErrorRole} (target : ErrorTarget) (directs : role ≠ .raises) :
      IsErrorStep role (Eval.modifyFrame (Engine.errorTargetFrame target))
  | clearError : IsErrorStep .handles Eval.clearError
  | takeHandler :
      IsErrorStep .handles (Eval.modifyFrame fun frame =>
        { frame with errorState := .handled, errorMode := .default, handler := none })

/-- An evaluation that is composed of steps, and what it does about the errors of its frame. A step
that asks the caches stands for all that it does if it finds nothing there. -/
inductive IsComposed : ErrorRole → {α : Type} → Eval α → Prop
  | pure {role : ErrorRole} {α : Type} (value : α) : IsComposed role (pure value)
  | bind {role : ErrorRole} {α β : Type} {first : Eval α} {next : α → Eval β}
      (composed : IsComposed role first) (each : ∀ value, IsComposed role (next value)) :
      IsComposed role (first >>= next)
  | read {role : ErrorRole} : IsComposed role (read : Eval Environment)
  | observe {role : ErrorRole} {α : Type} {next : State → Eval α}
      (blind : ∀ state, next state = next state.visible)
      (each : ∀ state, IsComposed role (next state)) : IsComposed role (get >>= next)
  | step {role : ErrorRole} {α : Type} {action : Eval α} (isStep : IsStep action) :
      IsComposed role action
  | errorStep {role : ErrorRole} {action : Eval Unit} (isStep : IsErrorStep role action) :
      IsComposed role action
  | attempt {role : ErrorRole} {α : Type} {action : Eval α} (composed : IsComposed role action) :
      IsComposed role (Eval.attempt action)
  | withBlock {role : ErrorRole} {α : Type} {action : Eval α} (object : Expr)
      (composed : IsComposed role action) :
      IsComposed role (do
        Eval.pushReceiver object
        Eval.afterwards action Eval.withoutReceiver)
  | receiver {role : ErrorRole} {engine : Engine}
      (node : ∀ object, IsComposed role (engine.node object)) :
      IsComposed role engine.receiverValue?
  | call {role : ErrorRole} {engine : Engine} {procedure : Procedure} {arguments : List Value}
      (composed : IsComposed .handles (engine.runInFrame procedure arguments)) :
      IsComposed role (engine.callProcedure procedure arguments)
  | constant {role : ErrorRole} {levels : Nat} {expression : Expr}
      (isConstant : expression.isConstant = true)
      (composed : IsComposed role ((Engine.within levels).nodeValue expression)) :
      IsComposed role ((Engine.within levels).constantValue expression)
  | compileLoop {role : ErrorRole} (loop : Statement) : IsComposed role (Eval.compileLoop loop)

end Eval

structure Engine.IsComposed (engine : Engine) : Prop where
  node {role : ErrorRole} (expression : Expr) : (engine.node expression).IsComposed role
  operand {role : ErrorRole} (expression : Expr) : (engine.operand expression).IsComposed role
  block {role : ErrorRole} (statements : List Statement)
    (admits : role.Admits (Statement.nodesOfList statements)) :
    (engine.block statements).IsComposed role
  call {role : ErrorRole} (procedure : Procedure) (arguments : List Value) :
    (engine.call procedure arguments).IsComposed role

namespace Eval.IsComposed

variable {role : ErrorRole}

/-! ## Values, names and errors -/

theorem map {α β : Type} (image : α → β) {action : Eval α} (composed : action.IsComposed role) :
    (image <$> action).IsComposed role := by
  rw [← bind_pure_comp]
  exact .bind composed fun _ => .pure _

theorem text (value : Value) : (Eval.text value).IsComposed role :=
  .observe (fun _ => rfl) fun _ => .pure _

theorem isTruthy (value : Value) : (Eval.isTruthy value).IsComposed role :=
  .observe (fun _ => rfl) fun _ => .pure _

/-- The rest of an evaluation stands behind both ways to its first value. -/
theorem bindEither {α β : Type} {condition : Prop} [Decidable condition] {first second : Eval α}
    {rest : α → Eval β} (firstComposed : first.IsComposed role)
    (secondComposed : second.IsComposed role)
    (restComposed : ∀ value, (rest value).IsComposed role) :
    Eval.IsComposed role (if condition then first >>= rest else second >>= rest) := by
  split
  · exact .bind firstComposed restComposed
  · exact .bind secondComposed restComposed

theorem scope : Eval.scope.IsComposed role :=
  .observe (fun _ => rfl) fun _ => .bind .read fun _ => .pure _

theorem lookup? (name : String) : (Eval.lookup? name).IsComposed role :=
  .bind scope fun _ => .pure _

theorem variableOrNull (name : String) : (Eval.variableOrNull name).IsComposed role :=
  .bind scope fun _ => .pure _

theorem procedure? (name : String) : (Eval.procedure? name).IsComposed role :=
  .bind scope fun _ => .pure _

theorem lift {α : Type} {outcome : Except Fault α} (ordinary : IsOrdinary outcome) :
    (Eval.lift outcome).IsComposed role := by
  cases outcome with
  | ok value => exact .pure value
  | error fault => exact .step (.raise fault (ordinary fault rfl))

theorem allocate {α : Type} (compute : Heap → α × Heap) :
    (Eval.allocate compute).IsComposed role :=
  .step (.onHeap _ fun _ => .ok _)

theorem setVariable (name : String) (value : Value) :
    (Eval.setVariable name value).IsComposed role :=
  .step (.assign .automatic none name value)

theorem report {kind : String} (quiet : kind ∉ announcementKinds) (value description : String) :
    (Eval.report kind value description).IsComposed role :=
  .step (.report kind value description quiet)

theorem mustHandleError : Eval.mustHandleError.IsComposed role :=
  .observe (fun _ => rfl) fun _ => .pure _

theorem closeFiles (numbers : List String) : (Eval.closeFiles numbers).IsComposed role := by
  induction numbers with
  | nil => exact .pure ()
  | cons number rest induction => exact .bind (.step (.closeFile number)) fun _ => induction

theorem closeAllFiles : Eval.closeAllFiles.IsComposed role :=
  .observe (fun _ => rfl) fun _ => closeFiles _

/-! ## The library -/

theorem perform (routine : HostRoutine) (arguments : List Value) :
    (routine.perform arguments).IsComposed role := by
  refine .bind (text _) fun first => ?_
  cases routine with
  | now | today | timer => exact .bind .read fun _ => .pure _
  | environment => exact .pure _
  | shell | run | dynamicCode | messageBox | saveToFile =>
      exact .bind (report (by decide) _ _) fun _ => .pure _
  | createObject | getObject => exact .bind (report (by decide) _ _) fun _ => allocate _
  | download =>
      exact .bind (text _) fun _ => .bind (report (by decide) _ _) fun _ =>
        .bind (text _) fun _ => .bind (report (by decide) _ _) fun _ => .pure _
  | openRequest =>
      exact .bind (text _) fun _ =>
        .bind (report (Text.asciiUpper_not_mem_announcementKinds first) _ _) fun _ => .pure _
  | moveMemory =>
      exact .observe (fun _ => rfl) fun _ => .bind (.step (.writeMemory _)) fun _ => .pure _

theorem callLibrary (function : LibraryFunction) (arguments : List Value) :
    (Eval.callLibrary function arguments).IsComposed role := by
  refine .bind (lift (function.isOrdinary_checkArity _)) fun _ => ?_
  cases function.routine with
  | pure routine => exact .step (.onHeap _ (routine.isOrdinary_apply arguments))
  | host routine => exact perform routine arguments

/-! ## The error object and containers -/

theorem callErrorMethod (lower : String) (arguments : List Value) :
    (Eval.callErrorMethod lower arguments).IsComposed role := by
  unfold Eval.callErrorMethod
  split
  · exact .observe (fun _ => rfl) fun _ => .step (.raise _ rfl)
  · split
    · exact .bind (.step .clearErrorInfo) fun _ => .pure _
    · exact .pure _

theorem containerProperty? (container : Value) (lower : String) :
    (Eval.containerProperty? container lower).IsComposed role := by
  unfold Eval.containerProperty?
  split
  · refine .observe (fun _ => rfl) fun _ => ?_
    dsimp only
    split
    · exact .pure _
    · split
      · exact .map some (allocate _)
      · split
        · exact .map some (allocate _)
        · exact .pure _
  · split
    · exact .observe (fun _ => rfl) fun _ => .pure _
    · exact .pure _
  · exact .pure _

theorem modifyMap (place : Nat) (change : Std.TreeMap String Value → Std.TreeMap String Value) :
    (Eval.modifyMap place change).IsComposed role :=
  .step (.changeHeap (·.modifyMap place change))

theorem callMapMethod? (place : Nat) (lower : String) (arguments : List Value) :
    (Eval.callMapMethod? place lower arguments).IsComposed role := by
  refine .observe (fun _ => rfl) fun _ => ?_
  dsimp only
  split
  · exact .bind (modifyMap place _) fun _ => .pure _
  · split
    · exact .pure _
    · split
      · exact .pure _
      · split
        · exact .bind (modifyMap place _) fun _ => .pure _
        · split
          · exact .bind (modifyMap place _) fun _ => .pure _
          · exact .pure _

theorem callContainerMethod? (container : Value) (lower : String) (arguments : List Value) :
    (Eval.callContainerMethod? container lower arguments).IsComposed role := by
  unfold Eval.callContainerMethod?
  split
  · exact callMapMethod? _ lower arguments
  · split
    · exact .observe (fun _ => rfl) fun _ =>
        .bind (lift (isOrdinary_indexValue _ _ _)) fun _ => .pure _
    · exact .pure _
  · exact .pure _

theorem ownProperty? (object : Expr) (value : Value) (name : String) :
    (Engine.ownProperty? object value name).IsComposed role := by
  refine .bind (containerProperty? value _) fun _ => ?_
  split
  · exact .pure _
  · split
    · split
      · exact lookup? _
      · exact .pure _
    · exact .pure _

end Eval.IsComposed

namespace Engine.IsComposed

open Eval.IsComposed

variable {role : ErrorRole} {engine : Engine} (composed : engine.IsComposed)
include composed

/-! ## Names -/

theorem callFunction? (name : String) (arguments : List Value) :
    (engine.callFunction? name arguments).IsComposed role := by
  refine .bind (procedure? name) fun procedure => ?_
  split
  · exact .bind (composed.call _ _) fun _ => .pure _
  · refine .bind .read fun environment => .bind .read fun _ => ?_
    split
    · dsimp only
      split
      · exact .bind (callLibrary _ _) fun _ => .pure _
      · exact .pure _
    · split
      · exact .bind (callLibrary _ _) fun _ => .pure _
      · exact .pure _

theorem pathValue? (path : String) : (engine.pathValue? path).IsComposed role := by
  refine .bind scope fun _ => .observe (fun _ => rfl) fun _ => ?_
  dsimp only
  split
  · exact .pure _
  · exact .pure _
  · refine .bind .read fun _ => ?_
    split
    · exact composed.callFunction? _ _
    · exact .pure _

theorem dottedValue? (path : String) : (engine.dottedValue? path).IsComposed role := by
  refine .bind .read fun _ => ?_
  dsimp only
  split
  · exact .pure _
  · refine .bind (composed.pathValue? path) fun _ => ?_
    split
    · exact .pure _
    · refine .bind scope fun _ => .observe (fun _ => rfl) fun _ => ?_
      split
      · exact .pure _
      · split
        · exact .pure _
        · split <;> exact .pure _

theorem resolve (variableExpected : Bool) (name : String) :
    (engine.resolve variableExpected name).IsComposed role := by
  refine .bind (.step .check) fun _ => .bind scope fun _ => ?_
  split
  · exact .pure _
  · refine .observe (fun _ => rfl) fun _ => ?_
    split
    · exact .pure _
    · refine .bind .read fun _ => ?_
      split
      · exact .pure _
      · refine .bindEither (composed.dottedValue? _) (.pure none) fun dotted => ?_
        dsimp only
        split
        · exact .pure _
        · split <;> exact .pure _

/-! ## Operands -/

theorem operands (expressions : List Expr) : (engine.operands expressions).IsComposed role := by
  induction expressions with
  | nil => exact .pure []
  | cons expression rest induction =>
      exact .bind (composed.operand expression) fun _ => .bind induction fun _ => .pure _

theorem locateCell (arguments : CellArguments) :
    (engine.locateCell arguments).IsComposed role := by
  cases arguments with
  | reference sheet reference =>
      exact .bind (composed.operand sheet) fun _ => .bind (composed.operand reference) fun _ =>
        .bind (text _) fun _ => .pure _
  | position sheet row column =>
      exact .bind (composed.operand sheet) fun _ => .bind (composed.operand row) fun _ =>
        .bind (composed.operand column) fun _ => .pure _
  | other sheet => exact .bind (composed.operand sheet) fun _ => .pure _

theorem readCell? (expression : Expr) : (engine.readCell? expression).IsComposed role := by
  refine .bind .read fun _ => ?_
  split
  · exact .pure _
  · split
    · exact .pure _
    · refine .bind (composed.locateCell _) fun _ => ?_
      dsimp only
      split
      · exact .observe (fun _ => rfl) fun _ => .pure _
      · exact .pure _

theorem readObjectText? (expression : Expr) :
    (engine.readObjectText? expression).IsComposed role := by
  unfold Engine.readObjectText?
  split
  · dsimp only
    split
    · exact .bind (composed.operand _) fun _ => .bind (text _) fun _ =>
        .bind .read fun _ => .pure _
    · exact .pure _
  · exact .pure _

/-! ## Expressions -/

theorem objectValue (object : Expr) : (engine.objectValue object).IsComposed role := by
  unfold Engine.objectValue
  split
  · exact .bind (.receiver composed.node) fun _ => .pure _
  · exact composed.operand _

theorem variableValue (name : String) : (engine.variableValue name).IsComposed role := by
  unfold Engine.variableValue
  split
  · exact .observe (fun _ => rfl) fun _ => .pure _
  · refine .bind (lookup? name) fun _ => ?_
    split
    · exact .pure _
    · refine .bind (procedure? name) fun _ => ?_
      split
      · exact composed.call _ _
      · refine .bind .read fun _ => ?_
        split
        · exact callLibrary _ _
        · exact composed.resolve _ _

theorem memberValue (object : Expr) (name : String) :
    (engine.memberValue object name).IsComposed role := by
  unfold Engine.memberValue
  split
  · exact .observe (fun _ => rfl) fun _ => .pure _
  · refine .observe (fun _ => rfl) fun _ => .bind (lookup? _) fun _ => ?_
    split
    · exact .pure _
    · refine .bind (composed.objectValue object) fun _ =>
        .bind (Eval.IsComposed.ownProperty? _ _ _) fun _ => ?_
      split
      · exact .pure _
      · exact composed.resolve _ _

theorem callMethod (expression object : Expr) (name : String) (arguments : List Expr) :
    (engine.callMethod expression object name arguments).IsComposed role := by
  unfold Engine.callMethod
  dsimp only
  split
  · exact .bind (composed.operands arguments) fun _ => callErrorMethod _ _
  · refine .bind (composed.objectValue object) fun _ => .bind (composed.operands arguments) fun _ =>
      .bind (callContainerMethod? _ _ _) fun _ => ?_
    split
    · exact .pure _
    · refine .bind .read fun _ => ?_
      split
      · exact callLibrary _ _
      · refine .bind (procedure? name) fun _ => ?_
        split
        · exact composed.call _ _
        · exact .observe (fun _ => rfl) fun _ => composed.resolve _ _

theorem callByName (expression : Expr) (name : String) (arguments : List Expr) :
    (engine.callByName expression name arguments).IsComposed role := by
  refine .bind (composed.operands arguments) fun _ =>
    .bind (composed.callFunction? name _) fun _ => ?_
  split
  · exact .pure _
  · dsimp only
    split
    · exact .observe (fun _ => rfl) fun _ => .pure _
    · exact .pure _

theorem callValue (expression callee : Expr) (arguments : List Expr) :
    (engine.callValue expression callee arguments).IsComposed role := by
  unfold Engine.callValue
  split
  · refine .bind (lookup? _) fun _ => ?_
    split
    · exact .bind (composed.operands arguments) fun _ =>
        .observe (fun _ => rfl) fun _ => lift (isOrdinary_indexValue _ _ _)
    · exact composed.callByName _ _ _
  · exact composed.callMethod _ _ _ _
  · exact .bind (composed.node _) fun _ => .bind (composed.operands arguments) fun _ =>
      .observe (fun _ => rfl) fun _ => lift (isOrdinary_indexValue _ _ _)

theorem nodeValue (expression : Expr) : (engine.nodeValue expression).IsComposed role := by
  refine .bind (.step .tick) fun _ => ?_
  cases expression with
  | literal value => exact .pure _
  | var name => exact composed.variableValue name
  | receiver => exact .bind (.receiver composed.node) fun _ => .pure _
  | unary operator operand => exact .bind (composed.operand operand) fun _ => .pure _
  | binary operator left right =>
      exact .bind (composed.operand left) fun _ => .bind (composed.operand right) fun _ =>
        .observe (fun _ => rfl) fun _ => lift (operator.isOrdinary_apply _ _ _)
  | member object name => exact composed.memberValue object name
  | call callee arguments => exact composed.callValue _ _ _

theorem documentOrNodeValue (expression : Expr) :
    (engine.documentOrNodeValue expression).IsComposed role := by
  refine .bind (composed.readCell? expression) fun _ => ?_
  split
  · exact .pure _
  · refine .bind (composed.readObjectText? expression) fun _ => ?_
    split
    · exact .pure _
    · refine .bind (composed.nodeValue expression) fun _ => ?_
      split
      · exact .bind .read fun _ => .pure _
      · exact .pure _

/-! ## Declarations and assignments -/

theorem initialValue (declaration : Declaration) :
    (engine.initialValue declaration).IsComposed role := by
  unfold Engine.initialValue
  split
  · exact .pure _
  · exact .bind (composed.operands _) fun _ =>
      .step (.onHeap _ fun heap => isOrdinary_newArray heap _ _)

theorem declare (declarations : List Declaration) :
    (engine.declare declarations).IsComposed role := by
  induction declarations with
  | nil => exact .pure ()
  | cons declaration rest induction =>
      exact .bind (composed.initialValue declaration) fun _ => .observe (fun _ => rfl) fun _ =>
        .bind (.step (.assign _ _ _ _)) fun _ => induction

theorem assignMiddle (arguments : List Expr) (value : Value) :
    (engine.assignMiddle arguments value).IsComposed role := by
  unfold Engine.assignMiddle
  split
  · rename_i name start rest
    refine .bind scope fun scope => .bind (lift (scope.isOrdinary_get name)) fun _ =>
      .bind (text _) fun current =>
      .bind (composed.operand start) fun start => ?_
    have overwritten (count : Option Value) : Eval.IsComposed role (do
        let replacement ← Eval.text value
        let updated ← Eval.lift (TextFunction.overwrite current start.toInteger.toInt
          (count.map fun count => count.toInteger.toInt) replacement)
        Eval.setVariable name (.text updated)) :=
      .bind (text _) fun _ => .bind (lift (TextFunction.isOrdinary_overwrite _ _ _ _)) fun _ =>
        setVariable _ _
    dsimp only
    split
    · exact .bind (.pure none) overwritten
    · exact .bind (.map some (composed.operand _)) overwritten
  · exact .step (.raise _ rfl)

theorem assignElement (container : Value) (arguments : List Expr) (value : Value) :
    (engine.assignElement container arguments value).IsComposed role := by
  refine .bind (composed.operands arguments) fun _ => .observe (fun _ => rfl) fun _ => ?_
  dsimp only
  split
  · exact .bind (.pure _) fun slot => .step (.changeHeap (·.write slot value))
  · exact .bind (lift (isOrdinary_elementSlot _ _ _)) fun slot =>
      .step (.changeHeap (·.write slot value))

theorem assign (target : Expr) (value : Value) :
    (engine.assign target value).IsComposed role := by
  have setNamed : Eval.IsComposed role (do
      Eval.setVariable (target.render (← get).heap) value : Eval Unit) :=
    .observe (fun _ => rfl) fun _ => setVariable _ _
  unfold Engine.assign
  dsimp only
  split
  · exact setVariable _ _
  · split
    · exact composed.assignMiddle _ _
    · refine .bind (lookup? _) fun _ => ?_
      split
      · exact composed.assignElement _ _ _
      · exact setNamed
  · exact setNamed
  · exact setNamed
  · exact .observe (fun _ => rfl) fun _ => .step (.raise _ rfl)

/-! ## Loops -/

theorem runBody {body : List Statement} (admits : role.Admits (Statement.nodesOfList body))
    (ownExit : Flow) : (engine.runBody body ownExit).IsComposed role := by
  refine .bind (composed.block _ admits) fun _ => .bind mustHandleError fun _ => ?_
  split
  · exact .pure _
  · split
    · exact .pure _
    · split <;> exact .pure _

omit composed in
theorem advance (index : String) (step : Value) : (Engine.advance index step).IsComposed role :=
  .bind (variableOrNull _) fun _ => .observe (fun _ => rfl) fun _ =>
    .bind (lift (BinaryOperator.isOrdinary_apply _ _ _ _)) fun _ => setVariable _ _

theorem runRange (index : String) (finish step : Value) (descending : Bool)
    {body : List Statement} (admits : role.Admits (Statement.nodesOfList body)) (rounds : Nat) :
    (engine.runRange index finish step descending body rounds).IsComposed role := by
  induction rounds with
  | zero => exact .pure _
  | succ rounds induction =>
      refine .bind (variableOrNull _) fun _ => .observe (fun _ => rfl) fun _ => ?_
      split
      · exact .pure _
      · refine .bind (composed.runBody admits _) fun _ => ?_
        split
        · exact .pure _
        · exact .pure _
        · exact .bind (advance _ _) fun _ => induction

theorem runItems (index : String) {body : List Statement}
    (admits : role.Admits (Statement.nodesOfList body)) (rounds : Nat) (items : List Value) :
    (engine.runItems index body rounds items).IsComposed role := by
  induction rounds generalizing items with
  | zero => exact .pure _
  | succ rounds induction =>
      cases items with
      | nil => exact .pure _
      | cons item items =>
          refine .bind (setVariable _ _) fun _ => .bind (composed.runBody admits _) fun _ => ?_
          split
          · exact .pure _
          · exact .pure _
          · exact induction items

theorem wantsRound (condition : Option (LoopTest × Expr)) :
    (engine.wantsRound condition).IsComposed role := by
  unfold Engine.wantsRound
  split
  · exact .pure _
  · exact .bind (composed.operand _) fun _ => isTruthy _
  · exact .bind (composed.operand _) fun _ => .bind (isTruthy _) fun _ => .pure _

theorem testWhen (tested : Bool) (condition : Option (LoopTest × Expr)) :
    (engine.testWhen tested condition).IsComposed role := by
  unfold Engine.testWhen
  split
  · exact composed.wantsRound condition
  · exact .pure _

theorem runConditional (condition : Option (LoopTest × Expr)) (testFirst : Bool)
    {body : List Statement} (admits : role.Admits (Statement.nodesOfList body)) (rounds : Nat) :
    (engine.runConditional condition testFirst body rounds).IsComposed role := by
  induction rounds with
  | zero => exact .bind (composed.testWhen _ _) fun _ => .pure _
  | succ rounds induction =>
      refine .bind (composed.testWhen _ _) fun _ => ?_
      split
      · exact .pure _
      · refine .bind (composed.runBody admits _) fun _ => ?_
        split
        · exact .pure _
        · exact .pure _
        · refine .bind (composed.testWhen _ _) fun _ => ?_
          split
          · exact .pure _
          · exact induction

theorem startRange (index : String) (start finish : Expr) (step : Option Expr) :
    (engine.startRange index start finish step).IsComposed role := by
  refine .bind (composed.operand start) fun _ => .bind (composed.operand finish) fun _ => ?_
  dsimp only
  split
  · exact .bind (composed.operand _) fun _ => .bind (setVariable _ _) fun _ => .pure _
  · exact .bind (.pure _) fun _ => .bind (setVariable _ _) fun _ => .pure _

theorem runLoop {loop : Statement} (admits : role.Admits (Node.statement loop).nodes) :
    (engine.runLoop loop).IsComposed role := by
  refine .bind .read fun _ => ?_
  cases loop with
  | forRange index start finish step body =>
      have admitsBody : role.Admits (Statement.nodesOfList body) := admits.body fun _ => .inRange
      exact .bind (composed.startRange _ _ _ _) fun _ => composed.runRange _ _ _ _ admitsBody _
  | forEach index items body =>
      have admitsBody : role.Admits (Statement.nodesOfList body) := admits.body fun _ => .inEach
      exact .bind (composed.operand _) fun _ => .observe (fun _ => rfl) fun _ =>
        .bind (lift (isOrdinary_iterationItems _ _)) fun _ => composed.runItems _ admitsBody _ _
  | whileLoop condition body =>
      exact composed.runConditional _ _ (admits.body fun _ => .inWhile) _
  | doLoop condition testFirst body =>
      exact composed.runConditional _ _ (admits.body fun _ => .inDo) _
  | _ => exact .pure _

/-! ## Statements -/

theorem runBranch {otherwise : List Statement} {arms : List Arm}
    (admitsOtherwise : role.Admits (Statement.nodesOfList otherwise))
    (admits : ∀ condition body, .mk condition body ∈ arms →
      role.Admits (Statement.nodesOfList body)) :
    (engine.runBranch otherwise arms).IsComposed role := by
  induction arms with
  | nil => exact composed.block _ admitsOtherwise
  | cons arm rest induction =>
      cases arm with
      | mk condition body =>
          refine .bind (composed.operand condition) fun _ => .bind (isTruthy _) fun _ => ?_
          split
          · exact composed.block _ (admits _ _ (.head _))
          · exact induction fun _ _ member => admits _ _ (.tail _ member)

theorem closeNumbered (numbers : List Expr) :
    (engine.closeNumbered numbers).IsComposed role := by
  induction numbers with
  | nil => exact .pure ()
  | cons number rest induction =>
      exact .bind (composed.operand number) fun _ => .bind (text _) fun _ =>
        .bind (.step (.closeFile _)) fun _ => induction

theorem runCall (expression : Expr) : (engine.runCall expression).IsComposed role := by
  unfold Engine.runCall
  split
  · exact .bind (composed.callValue _ _ _) fun _ => .pure _
  · exact .bind (composed.callValue _ _ _) fun _ => .pure _
  · exact .bind (composed.nodeValue _) fun _ => .pure _

theorem runOfferedLoop {loop : Statement} (admits : role.Admits (Node.statement loop).nodes) :
    (do
      if (← read).policy.compileLoops then
        if ← Eval.compileLoop loop then return .continue
      engine.runLoop loop : Eval Flow).IsComposed role := by
  refine .bind .read fun _ => ?_
  dsimp only
  split
  · refine .bind (.compileLoop loop) fun _ => ?_
    split
    · exact .pure _
    · exact composed.runLoop admits
  · exact composed.runLoop admits

theorem runStatement {statement : Statement} (admits : role.Admits (Node.statement statement).nodes) :
    (engine.runStatement statement).IsComposed role := by
  cases statement with
  | dim declarations => exact .bind (composed.declare declarations) fun _ => .pure _
  | assign target value =>
      exact .bind (composed.operand value) fun _ => .bind (composed.assign target _) fun _ =>
        .pure _
  | call expression => exact .bind (composed.runCall expression) fun _ => .pure _
  | branch arms otherwise =>
      exact composed.runBranch (admits.body fun _ => .otherwise) fun _ _ member =>
        admits.body fun _ => .guarded member
  | forRange | forEach | whileLoop | doLoop => exact composed.runOfferedLoop admits
  | withBlock object body =>
      have admitsBody : role.Admits (Statement.nodesOfList body) := admits.body fun _ => .inWith
      exact .withBlock object (composed.block _ admitsBody)
  | onError target =>
      have directs : role ≠ .raises := fun raises =>
        admits raises target (Node.self_mem_nodes _)
      exact .bind (.step .clearErrorInfo) fun _ =>
        .bind (.errorStep (.setTarget target directs)) fun _ => .pure _
  | label name => exact .pure _
  | exit kind => exact .pure _
  | openFile path number =>
      exact .bind (composed.operand path) fun _ => .bind (text _) fun _ =>
        .bind (composed.operand number) fun _ => .bind (text _) fun _ =>
        .bind (.step (.openFile _ _)) fun _ => .pure _
  | writeFile number value =>
      exact .bind (composed.operand number) fun _ => .bind (text _) fun _ =>
        .bind (composed.operand value) fun _ => .bind (.step (.writeFile _ _)) fun _ => .pure _
  | closeFiles numbers =>
      cases numbers with
      | nil => exact .bind closeAllFiles fun _ => .pure _
      | cons number rest => exact .bind (composed.closeNumbered _) fun _ => .pure _

theorem runBlock (statements : List Statement)
    (admits : role.Admits (Statement.nodesOfList statements)) :
    (engine.runBlock statements).IsComposed role := by
  induction statements with
  | nil => exact .pure _
  | cons statement rest induction =>
      have continued : Eval.IsComposed role (do
          if ← Eval.mustHandleError then return .continue
          engine.runBlock rest : Eval Flow) := by
        refine .bind mustHandleError fun _ => ?_
        split
        · exact .pure _
        · exact induction admits.tail
      refine .bind (.step .tick) fun _ =>
        .bind (.attempt (composed.runStatement admits.head)) fun _ => ?_
      split
      · exact continued
      · exact continued
      · exact .pure _
      · exact .bind (.step (.setError _)) fun _ => continued

/-! ## Calls -/

theorem handleError : engine.handleError.IsComposed .handles := by
  refine .observe (fun _ => rfl) fun _ => ?_
  dsimp only
  split
  · exact .bind (.errorStep .takeHandler) fun _ =>
      .bind (composed.block _ (ErrorRole.admits_handles _)) fun _ => .pure _
  · exact .pure _

omit composed in
theorem bindParameters (parameters : List Parameter) (arguments : List Value) :
    (Engine.bindParameters parameters arguments).IsComposed role := by
  induction parameters generalizing arguments with
  | nil => exact .pure ()
  | cons parameter rest induction =>
      exact .bind (.step (.assign _ _ _ _)) fun _ => induction arguments.tail

omit composed in
theorem returnValue (procedure : Procedure) :
    (Engine.returnValue procedure).IsComposed role := by
  unfold Engine.returnValue
  split
  · exact variableOrNull _
  · exact .pure _

theorem runInFrame (procedure : Procedure) (arguments : List Value) :
    (engine.runInFrame procedure arguments).IsComposed .handles := by
  have entered : Eval.IsComposed .handles (do
      Engine.bindParameters procedure.parameters arguments
      let _ ← engine.block procedure.body
      engine.handleError
      let pending ← Eval.mustHandleError
      let value ← Engine.returnValue procedure
      return (value, pending)) :=
    .bind (bindParameters _ _) fun _ =>
      .bind (composed.block _ (ErrorRole.admits_handles _)) fun _ =>
      .bind composed.handleError fun _ => .bind mustHandleError fun _ =>
      .bind (returnValue _) fun _ => .pure _
  refine .bind (.step (.setLabels procedure.body)) fun _ => ?_
  split
  · exact .bind (.step (.assign _ _ _ _)) fun _ => entered
  · exact entered

end Engine.IsComposed

/-! ## The interpreter -/

namespace Engine

theorem operandValue_isComposed {role : ErrorRole} {levels : Nat} (composed :
    (within levels).IsComposed)
    (expression : Expr) : ((within levels).operandValue expression).IsComposed role := by
  refine .bind (.step .check) fun _ => ?_
  split
  · exact .pure _
  · split
    · exact .constant ‹_› (composed.nodeValue _)
    · exact composed.documentOrNodeValue _

theorem within_isComposed (levels : Nat) : (within levels).IsComposed := by
  induction levels with
  | zero =>
      exact ⟨fun _ => .step .exhaust, fun _ => .step .exhaust, fun _ _ => .step .exhaust,
        fun _ _ => .step .exhaust⟩
  | succ levels induction =>
      exact ⟨induction.nodeValue, operandValue_isComposed induction, induction.runBlock,
        fun procedure arguments => .call (induction.runInFrame procedure arguments)⟩

end Engine

namespace Module

open Eval.IsComposed

theorem load_isComposed (source : Module) : source.load.IsComposed .handles := by
  have procedures (procedures : List Procedure) :
      (bindProcedures procedures).IsComposed .handles := by
    induction procedures with
    | nil => exact .pure ()
    | cons procedure rest induction =>
        exact .bind (.step (.bindProcedure procedure)) fun _ => induction
  have constants (constants : List (String × Expr)) :
      (bindConstants constants).IsComposed .handles := by
    induction constants with
    | nil => exact .pure ()
    | cons constant rest induction =>
        refine .bind (.attempt ((Engine.within_isComposed _).nodeValue _)) fun _ => ?_
        split
        · exact .bind (setVariable _ _) fun _ => induction
        · exact .bind (.pure ()) fun _ => induction
  have bound : Eval.IsComposed .handles (do
      bindConstants source.constants
      Eval.clearError) :=
    .bind (constants _) fun _ => .errorStep .clearError
  refine .bind (procedures _) fun _ => ?_
  split
  · exact .bind ((Engine.within_isComposed _).runBlock _ (ErrorRole.admits_handles _)) fun _ => bound
  · exact bound

theorem runEntry_isComposed (procedure : Procedure) (arguments : List Value) :
    (runEntry procedure arguments).IsComposed .handles := by
  refine .bind (.attempt (.call ((Engine.within_isComposed _).runInFrame _ _))) fun _ =>
    .bind mustHandleError fun _ => ?_
  split
  · exact .bind (.errorStep .clearError) fun _ => closeAllFiles
  · exact closeAllFiles

theorem runOne_isComposed (source : Module) (procedure : Procedure) (arguments : List Value) :
    (source.runOne procedure arguments).IsComposed .handles :=
  .bind source.load_isComposed fun _ => .bind (runEntry_isComposed _ _) fun _ =>
    .observe (fun _ => rfl) fun _ => .pure _

end Module

end MacroSandbox
