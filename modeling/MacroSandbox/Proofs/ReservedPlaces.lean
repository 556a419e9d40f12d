import MacroSandbox.Evaluation.Operand
import MacroSandbox.Loop.Compiler
import MacroSandbox.Proofs.Assignments
import MacroSandbox.Proofs.Parts
import MacroSandbox.Proofs.Separation

/-! States that do not refer to a reserve.

A reserve is a set of lists and maps of a heap. A state spares it if nothing outside of it refers to
it: no variable, no literal of the code that the state holds, and no item of another list or map. So
nothing that can be reached from the state is in the reserve. Here are the states and what is read off
them; that the interpreter spares what its states spare is shown elsewhere. -/

namespace MacroSandbox

/-! ## Code -/

/-- No literal of a part of a program refers to a reserve. -/
def Node.Spares (base : Reserve) (node : Node) : Prop :=
  ∀ value, node.Contains (.expr (.literal value)) → base.IsApart value

def Statement.ListSpares (base : Reserve) (statements : List Statement) : Prop :=
  ∀ statement ∈ statements, (Node.statement statement).Spares base

section

variable {base : Reserve}

namespace Node.Spares

variable {node inner : Node}

theorem contained (spares : node.Spares base) (contains : node.Contains inner) :
    inner.Spares base :=
  fun value inside => spares value (contains.trans inside)

theorem part (spares : node.Spares base) (part : node.HasPart inner) : inner.Spares base :=
  spares.contained (.single part)

theorem body {statements : List Statement} (spares : node.Spares base)
    (parts : ∀ statement ∈ statements, node.HasPart (.statement statement)) :
    Statement.ListSpares base statements :=
  fun statement member => spares.part (parts statement member)

theorem literal {value : Value} (spares : (Node.expr (.literal value)).Spares base) :
    base.IsApart value :=
  spares value (.refl _)

end Node.Spares

namespace Expr

theorem contains_of_reversedLinks? : ∀ (expression : Expr) {links : List Link},
    expression.reversedLinks? = some links → ∀ link ∈ links, ∀ arguments,
      link.arguments = some arguments → ∀ argument ∈ arguments,
        (Node.expr expression).Contains (.expr argument)
  | .var name, links, isChain, link, inChain, arguments, given, argument, inside => by
      cases isChain
      obtain rfl := List.mem_singleton.1 inChain
      cases given
  | .receiver, links, isChain, link, inChain, arguments, given, argument, inside => by
      cases isChain
      cases inChain
  | .member object name, links, isChain, link, inChain, arguments, given, argument, inside => by
      rw [reversedLinks?] at isChain
      cases before : object.reversedLinks? with
      | none => rw [before] at isChain; cases isChain
      | some outer =>
          rw [before] at isChain
          cases isChain
          rcases List.mem_cons.1 inChain with rfl | earlier
          · cases given
          · exact .head .object (contains_of_reversedLinks? object before link earlier arguments
              given argument inside)
  | .call callee values, links, isChain, link, inChain, arguments, given, argument, inside => by
      rw [reversedLinks?] at isChain
      split at isChain
      · rename_i name rest before
        cases isChain
        rcases List.mem_cons.1 inChain with rfl | earlier
        · cases given
          exact .single (.argument inside)
        · exact .head .callee (contains_of_reversedLinks? callee before link (.tail _ earlier)
            arguments given argument inside)
      · cases isChain
  | .literal _, _, isChain, _, _, _, _, _, _ | .unary _ _, _, isChain, _, _, _, _, _, _
  | .binary _ _ _, _, isChain, _, _, _, _, _, _ => by cases isChain

theorem contains_of_links? {expression : Expr} {links : List Link}
    (isChain : expression.links? = some links) {link : Link} (member : link ∈ links)
    {arguments : List Expr} (given : link.arguments = some arguments) {argument : Expr}
    (inside : argument ∈ arguments) : (Node.expr expression).Contains (.expr argument) := by
  rw [links?] at isChain
  cases reversed : expression.reversedLinks? with
  | none => rw [reversed] at isChain; cases isChain
  | some outer =>
      rw [reversed] at isChain
      cases isChain
      exact contains_of_reversedLinks? expression reversed link (List.mem_reverse.1 member) arguments
        given argument inside

end Expr

def CellArguments.AreAmong (holds : Expr → Prop) : CellArguments → Prop
  | .reference sheet cell => holds sheet ∧ holds cell
  | .position sheet row column => holds sheet ∧ holds row ∧ holds column
  | .other sheet => holds sheet

theorem CellArguments.AreAmong.imp {holds weaker : Expr → Prop} {arguments : CellArguments}
    (among : arguments.AreAmong holds) (implies : ∀ argument, holds argument → weaker argument) :
    arguments.AreAmong weaker := by
  cases arguments with
  | reference sheet cell => exact ⟨implies _ among.1, implies _ among.2⟩
  | position sheet row column =>
      exact ⟨implies _ among.1, implies _ among.2.1, implies _ among.2.2⟩
  | other sheet => exact implies _ among

theorem CellArguments.areAmong_of_ofLinks? {holds : Expr → Prop} {links : List Link}
    (given : ∀ link ∈ links, ∀ arguments, link.arguments = some arguments →
      ∀ argument ∈ arguments, holds argument) {arguments : CellArguments}
    (read : ofLinks? links = some arguments) : arguments.AreAmong holds := by
  unfold ofLinks? at read
  split at read
  · rename_i name sheet range trailing
    have ofSheet : holds sheet := given _ (.head _) _ rfl sheet (.head _)
    extract_lets readsValue at read
    split at read
    · cases read
    · split at read
      · cases read
      · rename_i values same
        have ofRange := given range (.tail _ (.head _)) _ same
        split at read
        · split at read <;> cases read
          · exact ⟨ofSheet, ofRange _ (.head _)⟩
          · exact ofSheet
        · split at read <;> cases read
          · exact ⟨ofSheet, ofRange _ (.head _), ofRange _ (.tail _ (.head _))⟩
          · exact ofSheet
        · cases read
          exact ofSheet
  · cases read

theorem Expr.areAmong_cellArguments? {expression : Expr} {arguments : CellArguments}
    (read : expression.cellArguments? = some arguments) :
    arguments.AreAmong fun argument => (Node.expr expression).Contains (.expr argument) := by
  unfold Expr.cellArguments? at read
  split at read
  · cases read
  · split at read
    · cases read
    · rename_i links isChain
      refine CellArguments.areAmong_of_ofLinks? (fun link member values given argument inside => ?_)
        read
      exact contains_of_links? isChain ((List.dropWhile_sublist _).subset member) given inside

@[simp] theorem NameMap.get?_empty {α : Type} (name : String) :
    ({} : NameMap α).get? name = none := by
  simp [NameMap.get?]

theorem NameMap.get?_insert_cases {α : Type} {table : NameMap α} {name other : String}
    {entry found : α} (bound : (table.insert name entry).get? other = some found) :
    found = entry ∨ table.get? other = some found := by
  rw [NameMap.get?_insert] at bound
  split at bound
  · cases bound
    exact .inl rfl
  · exact .inr bound

theorem Statement.listSpares_labelledBlocks {body : List Statement}
    {blocks : NameMap (List Statement)} (spares : Statement.ListSpares base body)
    (before : ∀ name block, blocks.get? name = some block → Statement.ListSpares base block)
    (name : String) (block : List Statement)
    (labelled : (labelledBlocks body blocks).get? name = some block) :
    Statement.ListSpares base block := by
  induction body, blocks using labelledBlocks.induct with
  | case1 blocks => exact before name block labelled
  | case2 label rest blocks induction =>
      have sparesRest : Statement.ListSpares base rest := fun _ member => spares _ (.tail _ member)
      refine induction sparesRest (fun other found bound => ?_) labelled
      rcases NameMap.get?_insert_cases bound with rfl | bound
      · exact sparesRest
      · exact before other found bound
  | case3 first rest blocks _ induction =>
      rw [labelledBlocks] at labelled
      · exact induction (fun _ member => spares _ (.tail _ member)) before labelled
      · assumption

/-! ## States -/

def Binding.Spares (base : Reserve) : Binding → Prop
  | .value held => base.IsApart held
  | .procedure held => (Node.procedure held).Spares base

structure Receiver.Spares (base : Reserve) (receiver : Receiver) : Prop where
  object : (Node.expr receiver.object).Spares base
  value : ∀ value, receiver.value = some value → base.IsApart value

structure Frame.Spares (base : Reserve) (frame : Frame) : Prop where
  locals : ∀ name binding, frame.locals.get? name = some binding → binding.Spares base
  receivers : ∀ receiver ∈ frame.receivers, receiver.Spares base
  handler : ∀ body, frame.handler = some body → Statement.ListSpares base body
  labelled : ∀ name body, frame.labelled.get? name = some body → Statement.ListSpares base body

/-- Nothing that a state refers to by name, in code or in the cache is in a reserve. -/
structure State.Omits (base : Reserve) (state : State) : Prop where
  globals : ∀ name binding, state.run.globals.get? name = some binding → binding.Spares base
  frame : state.frame.Spares base
  remembered : ∀ source value, state.caches.constants.get? source = some value → base.IsApart value

/-- The reserve is as it was, and nothing outside of it refers to it. -/
structure State.Spares (base : Reserve) (state : State) : Prop extends State.Omits base state where
  heap : base.Separates state.heap

theorem State.omits_start (environment : Environment) (sink : Option (Array Action)) (heap : Heap) :
    (State.start environment sink heap {}).Omits base where
  globals _ _ bound := by simp [State.start, Run.start] at bound
  frame := {
    locals := fun _ _ bound => by simp [State.start] at bound
    receivers := nofun
    handler := nofun
    labelled := fun _ _ bound => by simp [State.start] at bound }
  remembered _ _ known := by simp [State.start] at known

structure Environment.Spares (base : Reserve) (environment : Environment) : Prop where
  constants : ∀ name value, environment.constants.get? name = some value → base.IsApart value
  cells : ∀ workbook, environment.document = some workbook → ∀ sheet cell value,
    workbook.cell? sheet cell = some value → base.IsApart value

/-! ## What can be reached -/

inductive State.Holds (state : State) : Node → Prop
  | global {name : String} {procedure : Procedure}
      (bound : state.run.globals.get? name = some (.procedure procedure)) :
      Holds state (.procedure procedure)
  | local {name : String} {procedure : Procedure}
      (bound : state.frame.locals.get? name = some (.procedure procedure)) :
      Holds state (.procedure procedure)
  | receiver {receiver : Receiver} (member : receiver ∈ state.frame.receivers) :
      Holds state (.expr receiver.object)
  | handler {body : List Statement} {statement : Statement}
      (isHandler : state.frame.handler = some body) (member : statement ∈ body) :
      Holds state (.statement statement)
  | labelled {name : String} {body : List Statement} {statement : Statement}
      (isLabelled : state.frame.labelled.get? name = some body) (member : statement ∈ body) :
      Holds state (.statement statement)

/-- A value can be reached: by a name, as a literal of code, as the value of a `With` object, from the
cache or from the document, or as an item of a list or a map that can be reached. -/
inductive State.Reaches (environment : Environment) (state : State) : Value → Prop
  | global {name : String} {value : Value}
      (bound : state.run.globals.get? name = some (.value value)) : Reaches environment state value
  | local {name : String} {value : Value}
      (bound : state.frame.locals.get? name = some (.value value)) : Reaches environment state value
  | constant {name : String} {value : Value}
      (named : environment.constants.get? name = some value) : Reaches environment state value
  | literal {node : Node} {value : Value} (holds : state.Holds node)
      (contains : node.Contains (.expr (.literal value))) : Reaches environment state value
  | receiver {receiver : Receiver} {value : Value} (member : receiver ∈ state.frame.receivers)
      (known : receiver.value = some value) : Reaches environment state value
  | remembered {source : String} {value : Value}
      (cached : state.caches.constants.get? source = some value) : Reaches environment state value
  | cell {workbook : Workbook} {sheet : Nat} {cell : Cell} {value : Value}
      (document : environment.document = some workbook)
      (filled : workbook.cell? sheet cell = some value) : Reaches environment state value
  | item {place : Nat} {value : Value} (outer : Reaches environment state (.list place))
      (member : value ∈ state.heap.list place) : Reaches environment state value
  | entry {place : Nat} {key : String} {value : Value}
      (outer : Reaches environment state (.map place))
      (bound : (state.heap.map place).get? key = some value) : Reaches environment state value

namespace State.Spares

variable {environment : Environment} {state : State}

theorem holds (spares : state.Spares base) {node : Node} (holds : state.Holds node) :
    node.Spares base := by
  cases holds with
  | global bound => exact spares.globals _ _ bound
  | «local» bound => exact spares.frame.locals _ _ bound
  | receiver member => exact (spares.frame.receivers _ member).object
  | handler isHandler member => exact spares.frame.handler _ isHandler _ member
  | labelled isLabelled member => exact spares.frame.labelled _ _ isLabelled _ member

theorem isApart_of_reaches (spares : state.Spares base) (outside : environment.Spares base)
    {value : Value} (reaches : state.Reaches environment value) : base.IsApart value := by
  induction reaches with
  | global bound => exact spares.globals _ _ bound
  | «local» bound => exact spares.frame.locals _ _ bound
  | constant named => exact outside.constants _ _ named
  | literal holds contains => exact spares.holds holds _ contains
  | receiver member known => exact (spares.frame.receivers _ member).value _ known
  | remembered cached => exact spares.remembered _ _ cached
  | cell document filled => exact outside.cells _ document _ _ _ filled
  | item _ member apart => exact spares.heap.items _ apart _ member
  | entry _ bound apart => exact spares.heap.entries _ apart _ _ bound

end State.Spares

/-! ## Reading variables -/

structure Scope.Spares (base : Reserve) (scope : Scope) : Prop where
  locals : ∀ name binding, scope.locals.get? name = some binding → binding.Spares base
  globals : ∀ name binding, scope.globals.get? name = some binding → binding.Spares base
  constants : ∀ name value, scope.constants.get? name = some value → base.IsApart value

theorem State.Spares.scope {environment : Environment} {state : State}
    (spares : state.Spares base) (outside : environment.Spares base) :
    (state.scope environment).Spares base :=
  ⟨spares.frame.locals, spares.globals, outside.constants⟩

theorem NameMap.isApart_of_value? {table : NameMap Binding}
    (spares : ∀ name binding, table.get? name = some binding → binding.Spares base) {name : String}
    {value : Value} (bound : (table.get? name).bind Binding.value? = some value) :
    base.IsApart value := by
  rcases Option.bind_eq_some_iff.1 bound with ⟨binding, found, holds⟩
  cases binding with
  | value held =>
      cases holds
      exact spares _ _ found
  | procedure held => cases holds

namespace Scope.Spares

variable {scope : Scope} {name : String}

theorem isApart_of_bound? (spares : scope.Spares base) {globalsOnly : Bool} {found : Found}
    (bound : scope.bound? globalsOnly name = some found) : base.IsApart found.value := by
  unfold bound? at bound
  dsimp only at bound
  split at bound
  · rename_i value isLocal
    cases bound
    split at isLocal
    · cases isLocal
    · exact NameMap.isApart_of_value? spares.locals isLocal
  · split at bound
    · rename_i value isGlobal
      cases bound
      exact NameMap.isApart_of_value? spares.globals isGlobal
    · rcases Option.map_eq_some_iff.1 bound with ⟨value, isConstant, rfl⟩
      exact spares.constants _ _ isConstant

theorem isApart_of_lookupWithin (spares : scope.Spares base) {globalsOnly : Bool} {steps : Nat}
    {found : Found} (looked : scope.lookupWithin globalsOnly steps name = some (.ok found)) :
    base.IsApart found.value := by
  induction steps generalizing name with
  | zero => cases looked
  | succ steps induction =>
      rw [lookupWithin] at looked
      -- the member that the name may stand for, then the name itself, then the name without a `$`
      split at looked
      · cases looked
      · rename_i qualified
        cases looked
        split at qualified
        · exact induction qualified
        · cases qualified
      · split at looked
        · rename_i bound
          cases looked
          exact spares.isApart_of_bound? bound
        · split at looked
          · exact induction looked
          · cases looked

theorem isApart_of_get (spares : scope.Spares base) {value : Value}
    (read : scope.get name = .ok value) : base.IsApart value := by
  unfold get lookup at read
  dsimp only at read
  cases looked : scope.lookupWithin false (steps (Text.trim name)) (Text.trim name) with
  | none =>
      rw [looked] at read
      cases read
  | some outcome =>
      rw [looked] at read
      cases outcome with
      | error fault => cases read
      | ok found =>
          cases read
          exact spares.isApart_of_lookupWithin looked

theorem isApart_of_get? (spares : scope.Spares base) {value : Value}
    (read : scope.get? name = some value) : base.IsApart value := by
  unfold get? at read
  cases got : scope.get name with
  | error fault =>
      rw [got] at read
      cases read
  | ok found =>
      rw [got] at read
      cases read
      exact spares.isApart_of_get got

theorem spares_of_procedure? (spares : scope.Spares base) {procedure : Procedure}
    (found : scope.procedure? name = some procedure) : (Node.procedure procedure).Spares base := by
  rcases Option.bind_eq_some_iff.1 found with ⟨binding, bound, holds⟩
  cases binding with
  | value held => cases holds
  | procedure held =>
      cases holds
      exact spares.globals _ _ bound

end Scope.Spares

/-! ## Writing variables -/

namespace State.Omits

variable {environment : Environment} {state : State}

theorem bind (omits : state.Omits base) (placement : Placement) (name : String)
    {binding : Binding} (apart : binding.Spares base) :
    (state.bind placement name binding).Omits base := by
  have inserted {table : NameMap Binding}
      (before : ∀ name binding, table.get? name = some binding → binding.Spares base) (other : String)
      (found : Binding) (bound : (table.insert name binding).get? other = some found) :
      found.Spares base := by
    rcases NameMap.get?_insert_cases bound with rfl | bound
    · exact apart
    · exact before _ _ bound
  unfold State.bind
  split
  · exact { omits with globals := inserted omits.globals }
  · exact { omits with frame := { omits.frame with locals := inserted omits.frame.locals } }

theorem scanValue (omits : state.Omits base) (value : Value) :
    (state.scanValue value).Omits base := by
  cases value with
  | text content => exact { omits with }
  | _ => exact omits

theorem convertNode (omits : state.Omits base) (placement : Placement) (name : String)
    (value : Value) : (state.convertNode environment placement name value).Omits base := by
  unfold State.convertNode
  dsimp only
  split
  · split
    · exact omits
    · split
      · exact omits.bind _ _ trivial
      · exact omits
  · split
    · exact omits.bind _ _ trivial
    · exact omits

theorem assign (omits : state.Omits base) (placement : Placement) (type : Option DeclaredType)
    (name : String) {value : Value} (apart : base.IsApart value) :
    (state.assign environment placement type name value).Omits base := by
  have untyped {state : State} (omits : state.Omits base) :
      (state.assign environment placement none name value).Omits base := by
    unfold State.assign
    have coerced : base.IsApart
        (state.heap.coerceTo (state.frame.types.get? (state.storedName name)) value) :=
      Reserve.Separates.isApart_coerceTo apart _
    exact ((omits.scanValue _).convertNode _ _ _).bind _ _ coerced
  cases type with
  | none => exact untyped omits
  | some type =>
      have typed : (state.setType (state.storedName name) type).Omits base :=
        { omits with frame := { omits.frame with } }
      exact untyped typed

theorem set (omits : state.Omits base) (name : String) {value : Value} (apart : base.IsApart value) :
    (state.set environment name value).Omits base :=
  omits.assign _ _ _ apart

end State.Omits

namespace State.Spares

variable {environment : Environment} {state : State}

theorem assign (spares : state.Spares base) (placement : Placement) (type : Option DeclaredType)
    (name : String) {value : Value} (apart : base.IsApart value) :
    (state.assign environment placement type name value).Spares base where
  toOmits := spares.toOmits.assign placement type name apart
  heap := by
    rw [heap_assign]
    exact spares.heap

theorem set (spares : state.Spares base) (name : String) {value : Value}
    (apart : base.IsApart value) : (state.set environment name value).Spares base :=
  spares.assign _ _ _ apart

theorem withHeap (spares : state.Spares base) {heap : Heap} (separate : base.Separates heap) :
    State.Spares base { state with heap } :=
  { spares with heap := separate }

/-! ## Writing results back -/

theorem mergeValue (spares : state.Spares base) (outside : environment.Spares base) (name : String)
    {value : Value} (apart : base.IsApart value) :
    (state.mergeValue environment name value).Spares base := by
  have bound {held : Value} (found : (state.scope environment).get? name = some held) :
      base.IsApart held :=
    (spares.scope outside).isApart_of_get? found
  unfold State.mergeValue
  split
  · rename_i existing updated found
    exact spares.withHeap (spares.heap.modifyList (bound found) fun item member =>
      spares.heap.items _ apart item member)
  · rename_i existing updated found
    exact spares.withHeap (spares.heap.modifyMap (bound found) fun key item present =>
      spares.heap.entries _ apart key item present)
  · exact spares.set name apart

theorem mergeUpdates (spares : state.Spares base) (outside : environment.Spares base)
    (updates : List (String × Datum)) : (state.mergeUpdates environment updates).Spares base := by
  induction updates generalizing state with
  | nil => exact spares
  | cons update rest induction =>
      rcases update with ⟨name, final⟩
      have built := Reserve.Separates.build base final spares.heap
      exact induction ((spares.withHeap built.1).mergeValue outside name built.2)

theorem mergeTypes (spares : state.Spares base) (types : List (String × DeclaredType)) :
    (state.mergeTypes types).Spares base := by
  induction types generalizing state with
  | nil => exact spares
  | cons entry rest induction =>
      rcases entry with ⟨name, type⟩
      unfold State.mergeTypes
      dsimp only
      split
      · exact induction { spares with frame := { spares.frame with } }
      · exact induction spares

theorem mergeResult (spares : state.Spares base) (outside : environment.Spares base)
    (result : LoopResult) (certain : List (String × DeclaredType)) :
    (state.mergeResult environment result certain).Spares base := by
  let merged := state.mergeUpdates environment result.updates
  have sparesMerged : merged.Spares base := spares.mergeUpdates outside result.updates
  have withMemory :
      State.Spares base { merged with run.memory := merged.run.memory.merge result.memory } :=
    { sparesMerged with }
  exact withMemory.mergeTypes certain

end State.Spares

end

end MacroSandbox
