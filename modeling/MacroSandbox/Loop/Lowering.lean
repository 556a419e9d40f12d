import MacroSandbox.Inference
import MacroSandbox.Loop.Program

/-! From a loop in a state of its caller to a loop program.

Members of objects, `With` shorthand, files, error handling and functions that act on the run have
no place in a loop program; a loop that needs them is refused and left to the interpreter. -/

namespace MacroSandbox

/-! ## The caller -/

/-- What a loop sees of the state in which it is to run: the heap, the names of the module and the
frame. -/
structure Caller where
  environment : Environment
  heap : Heap
  globals : NameMap Binding
  frame : Frame

def State.caller (state : State) (environment : Environment) : Caller :=
  { environment, heap := state.heap, globals := state.run.globals, frame := state.frame }

namespace Caller

def scope (caller : Caller) : Scope :=
  { locals := caller.frame.locals
    globals := caller.globals
    constants := caller.environment.constants
    receiver := caller.frame.receiverName? }

def isCallable (caller : Caller) (name : String) : Bool :=
  (caller.scope.get? name).isNone &&
    ((caller.scope.procedure? name).isSome || (caller.environment.library.get? name).isSome ||
      (caller.environment.externals.get? name).isSome)

def holdsContainer (caller : Caller) (name : String) : Bool :=
  match caller.scope.get? name with
  | some (.list _) | some (.map _) => true
  | _ => false

def receiverVariable? (caller : Caller) : Option String :=
  match caller.frame.receiverName? with
  | none => none
  | some receiver =>
      if receiver.isEmpty || !Text.all (fun c => Text.isAlphanumeric c || c == '_') receiver then none
      else
        let key := Text.asciiLower receiver
        match caller.scope.get? key with
        | some (.object ..) | none => none
        | some _ => some key

end Caller

/-! ## Values a program can hold -/

/-- Whether a text may stand in a program: only with permission if it has characters from the upper
half of an eight-bit code. -/
def admitsText (permissive : Bool) (text : String) : Bool :=
  permissive || !Text.any (fun character => 0x7F ≤ character.toNat && character.toNat ≤ 0xFF) text

/-- Whether a value nested at most `depth` levels deep may stand in a program. Objects may not. -/
def Heap.admitsWithin (heap : Heap) (permissive : Bool) : (depth : Nat) → Value → Bool
  | _, .object .. => false
  | _, .text content => admitsText permissive content
  | 0, .list _ | 0, .map _ => true
  | depth + 1, .list place => (heap.list place).toList.all (heap.admitsWithin permissive depth)
  | depth + 1, .map place => (heap.map place).values.all (heap.admitsWithin permissive depth)
  | _, _ => true

def Heap.programValue? (heap : Heap) (permissive : Bool) (value : Value) : Option Value :=
  if heap.admitsWithin permissive heap.depthBound value then
    match value with
    | .unresolved => some .null
    | other => some other
  else none

/-! ## Expressions and statements -/

structure LoweringContext where
  caller : Caller
  store : Std.TreeMap String Value
  /-- The local names of the function that the part belongs to, if it belongs to one. -/
  locals : Option (Std.TreeSet String) := none
  current : Option String := none

namespace LoweringContext

def isLocal (context : LoweringContext) (name : String) : Bool :=
  match context.locals with
  | some locals => locals.contains name
  | none => false

def isVariable (context : LoweringContext) (name : String) : Bool :=
  context.isLocal name || context.store.contains name

def isIndexable (context : LoweringContext) (name : String) : Bool :=
  context.isLocal name ||
    match context.store.get? name with
    | some (.list _) | some (.map _) => true
    | _ => false

def builtin? (function : LibraryFunction) (arguments : List LoopExpr) : Option LoopExpr :=
  match function.routine with
  | .pure routine =>
      if function.arity.admits arguments.length then
        some (.builtin (Text.asciiLower function.name) routine arguments)
      else none
  | .host _ => none

def lowerName? (context : LoweringContext) (name : String) : Option LoopExpr :=
  let key := Text.asciiLower name
  if key == "err" || key == "me" then none
  else if context.isVariable key then some (.var key)
  else if (context.caller.scope.procedure? name).isSome then some (.call key [])
  else
    match context.caller.environment.library.get? name with
    | some function =>
        if function.arity.admits 0 then builtin? function [] else some (.var key)
    | none => some (.var key)

def lowerCall? (context : LoweringContext) (name : String) (arguments : List LoopExpr) :
    Option LoopExpr :=
  let key := Text.asciiLower name
  let environment := context.caller.environment
  if context.current != some key && context.isIndexable key then some (.index key arguments)
  else if (context.caller.scope.procedure? name).isSome then some (.call key arguments)
  else
    let target := match environment.externals.get? name with
      | some declared => declared.foreignName.getD declared.name
      | none => name
    match (environment.library.get? target).or (environment.library.get? name) with
    | none => none
    | some function =>
        if Text.sameIgnoringCase function.name "rtlmovememory" && arguments.length == 3 then
          some (.writeMemory arguments)
        else builtin? function arguments

mutual

def lowerExpr? (context : LoweringContext) : Expr → Option LoopExpr
  | .literal (.text content) =>
      if admitsText context.caller.environment.policy.permissiveLiterals content then
        some (.constant (.text content))
      else none
  | .literal value => some (.constant value)
  | .var name => context.lowerName? name
  | .unary operator operand =>
      (lowerExpr? context operand).map (.unary operator)
  | .binary operator left right =>
      match lowerExpr? context left, lowerExpr? context right with
      | some left, some right => some (.binary operator left right)
      | _, _ => none
  | .call (.var name) arguments =>
      match lowerExprs? context arguments with
      | some arguments => context.lowerCall? name arguments
      | none => none
  | .call .. | .receiver | .member .. => none

def lowerExprs? (context : LoweringContext) : List Expr → Option (List LoopExpr)
  | [] => some []
  | expression :: rest =>
      match lowerExpr? context expression, lowerExprs? context rest with
      | some expression, some rest => some (expression :: rest)
      | _, _ => none

end

def lowerOptional? (context : LoweringContext) : Option Expr → Option (Option LoopExpr)
  | none => some none
  | some expression => (context.lowerExpr? expression).map some

def isOverwrite (name : String) : Bool :=
  Text.sameIgnoringCase name "mid" || Text.sameIgnoringCase name "mid$"

def lowerAssign? (context : LoweringContext) (target value : Expr) : Option LoopStatement := do
  let value ← context.lowerExpr? value
  match target with
  | .var name => some (.assign (Text.asciiLower name) value)
  | .call (.var function) arguments =>
      if isOverwrite function then
        match arguments with
        | [.var name, start] =>
            some (.overwrite (Text.asciiLower name) (← context.lowerExpr? start) none value)
        | [.var name, start, length] =>
            some (.overwrite (Text.asciiLower name) (← context.lowerExpr? start)
              (some (← context.lowerExpr? length)) value)
        | _ => none
      else if context.isIndexable (Text.asciiLower function) then
        some (.assignElement (Text.asciiLower function) (← context.lowerExprs? arguments) value)
      else none
  | _ => none

def lowerDeclaration? (context : LoweringContext) (declaration : Declaration) :
    Option LoopDeclaration :=
  (context.lowerExprs? declaration.bounds).map fun bounds =>
    { name := Text.asciiLower declaration.name, type := declaration.type, bounds }

def lowerDeclarations? (context : LoweringContext) : List Declaration →
    Option (List LoopDeclaration)
  | [] => some []
  | declaration :: rest =>
      match context.lowerDeclaration? declaration, context.lowerDeclarations? rest with
      | some declaration, some rest => some (declaration :: rest)
      | _, _ => none

def lowerExit? (context : LoweringContext) (loops : List LoopKind) : ExitKind →
    Option LoopStatement
  | .for => if loops.contains .for then some (.break .for) else none
  | .do => if loops.contains .do then some (.break .do) else none
  | .sub | .function => if context.locals.isSome then some .return else none

mutual

def lowerStatement? (context : LoweringContext) (loops : List LoopKind) :
    Statement → Option LoopStatement
  | .dim declarations => (context.lowerDeclarations? declarations).map .dim
  | .assign target value => context.lowerAssign? target value
  | .call (.var name) => (context.lowerName? name).map .evaluate
  | .call (.call callee arguments) =>
      (context.lowerExpr? (.call callee arguments)).map .evaluate
  | .call _ => none
  | .branch arms otherwise => do
      some (.branch (← lowerArms? context loops arms) (← lowerBlock? context loops otherwise))
  | .forRange index start finish step body => do
      some (.forRange (Text.asciiLower index) (← context.lowerExpr? start)
        (← context.lowerExpr? finish) (← context.lowerOptional? step)
        (← lowerBlock? context (.for :: loops) body))
  | .forEach index items body => do
      some (.forEach (Text.asciiLower index) (← context.lowerExpr? items)
        (← lowerBlock? context (.for :: loops) body))
  | .whileLoop condition body => do
      some (.conditional (some (.while, ← context.lowerExpr? condition)) true
        (← lowerBlock? context (.do :: loops) body))
  | .doLoop none testFirst body => do
      some (.conditional none testFirst (← lowerBlock? context (.do :: loops) body))
  | .doLoop (some (test, condition)) testFirst body => do
      some (.conditional (some (test, ← context.lowerExpr? condition)) testFirst
        (← lowerBlock? context (.do :: loops) body))
  | .exit kind => context.lowerExit? loops kind
  | .withBlock .. | .onError _ | .label _ | .openFile .. | .writeFile .. | .closeFiles _ => none

def lowerArms? (context : LoweringContext) (loops : List LoopKind) :
    List Arm → Option (List LoopArm)
  | [] => some []
  | arm :: rest => do
      some ((← lowerArm? context loops arm) :: (← lowerArms? context loops rest))

def lowerArm? (context : LoweringContext) (loops : List LoopKind) : Arm → Option LoopArm
  | .mk condition body => do
      some (.mk (← context.lowerExpr? condition) (← lowerBlock? context loops body))

def lowerBlock? (context : LoweringContext) (loops : List LoopKind) :
    List Statement → Option (List LoopStatement)
  | [] => some []
  | statement :: rest => do
      some ((← lowerStatement? context loops statement) :: (← lowerBlock? context loops rest))

end

def lowerProcedure? (context : LoweringContext) (procedure : Procedure)
    (locals : Std.TreeSet String) : Option LoopFunction :=
  let name := Text.asciiLower procedure.name
  let inside := { context with locals := some locals, current := some name }
  (lowerBlock? inside [] procedure.body).map fun body =>
    { name
      parameters := procedure.parameters.map fun parameter =>
        (Text.asciiLower parameter.name, parameter.type)
      returnsValue := procedure.kind == .function
      returnType := procedure.returnType
      body }

end LoweringContext

/-! ## Code that is generated while it runs -/

def dropWord? : (word text : List Char) → Option (List Char)
  | [], text => some text
  | _ :: _, [] => none
  | letter :: word, character :: rest =>
      if character.toLower == letter then dropWord? word rest else none

def startsDynamicCall (text : List Char) : Bool :=
  ["execute", "executeglobal", "eval"].any fun word =>
    match dropWord? word.toList text with
    | some rest => (rest.dropWhile Text.isBlank).head? == some '('
    | none => false

def hasDynamicCallFrom : (inWord : Bool) → List Char → Bool
  | _, [] => false
  | inWord, character :: rest =>
      (!inWord && startsDynamicCall (character :: rest)) ||
        hasDynamicCallFrom (Text.isWordCharacter character) rest

def hasDynamicCode (source : String) : Bool :=
  hasDynamicCallFrom false source.toList

/-! ## Programs -/

/-- A program with the types that assignments in the loop show for variables without a value. -/
structure Lowered where
  program : LoopProgram
  certain : List (String × DeclaredType)

/-- What is known of a program before its statements are lowered: the names of its variables, those
that go back to the caller, those that functions see, and the functions with their local names. -/
structure ProgramNames where
  used : Std.TreeSet String
  captures : Std.TreeSet String
  shared : Std.TreeSet String := ∅
  functions : List (Procedure × Std.TreeSet String) := []

namespace Caller

def sortedNames (names : List String) : List String :=
  (Std.TreeSet.ofList names).toList

/-- The names that a procedure treats as its own: its parameters, its result, what it declares, and
what it reads or writes that is neither global nor callable. -/
def localNames (caller : Caller) (procedure : Procedure) : Std.TreeSet String :=
  let node := Node.procedure procedure
  let result := if procedure.kind == .function then [Text.asciiLower procedure.name] else []
  let unknown := (node.reads.vars ++ node.writes).filter fun name =>
    !(caller.scope.getGlobal name).toBool && !caller.isCallable name
  Std.TreeSet.ofList
    (procedure.parameters.map (fun parameter => Text.asciiLower parameter.name) ++ result ++
      node.declaredNames ++ unknown)

/-- Whether the frame and the module agree on a name with this global value. A local of the frame
agrees if it has the same contents. -/
def agreesOn (caller : Caller) (name : String) (global : Value) : Bool :=
  match caller.scope.lookup false name with
  | .ok found =>
      if found.isLocal then caller.heap.sameContents found.value global
      else caller.heap.same found.value global
  | .error _ => false

/-- Adds the global names that a procedure uses. A name that the loop uses too must mean the same in
the frame of the caller. -/
def addUsedNames (caller : Caller) (locals : Std.TreeSet String) (writes : List String) :
    List String → ProgramNames → Option ProgramNames
  | [], names => some names
  | name :: rest, names =>
      if locals.contains name then caller.addUsedNames locals writes rest names
      else
        match caller.scope.getGlobal name with
        | .error _ => caller.addUsedNames locals writes rest names
        | .ok global =>
            if names.used.contains name && !caller.agreesOn name global then none
            else
              caller.addUsedNames locals writes rest
                { names with
                  used := names.used.insert name
                  shared := names.shared.insert name
                  captures :=
                    if writes.contains name then names.captures.insert name else names.captures }

def addProcedure? (caller : Caller) (names : ProgramNames) (procedure : Procedure) :
    Option ProgramNames :=
  if hasDynamicCode (procedure.render caller.heap) then none
  else
    let node := Node.procedure procedure
    let locals := caller.localNames procedure
    let used := sortedNames node.reads.vars ++ sortedNames node.reads.callees ++
      sortedNames node.writes
    (caller.addUsedNames locals node.writes used names).map fun names =>
      { names with functions := names.functions ++ [(procedure, locals)] }

def loopNames (caller : Caller) (region : Node) : ProgramNames :=
  let reads := region.reads
  let plain := (reads.vars ++ region.writes).filter (!caller.isCallable ·)
  let containers := reads.callees.filter caller.holdsContainer
  let captured := region.writes.filter (!caller.isCallable ·)
  let receiver := caller.receiverVariable?.toList
  { used := Std.TreeSet.ofList (plain ++ containers ++ receiver)
    captures := Std.TreeSet.ofList (captured ++ receiver) }

/-- The initial value of a variable: that of the caller, or else one of the type that assignments
show. A type that is certain is returned with it. -/
def initialValue? (caller : Caller) (region : Node) (name : String) :
    Option (Value × List (String × DeclaredType)) :=
  match caller.scope.get? name with
  | some value =>
      (caller.heap.programValue? caller.environment.policy.permissiveLiterals value).map (·, [])
  | none =>
      let (type, isCertain) := inferType caller.environment caller.scope caller.heap name region
      some (DeclaredType.initial (some type.declared),
        if isCertain then [(name, type.declared)] else [])

def prologue? (caller : Caller) (region : Node) : List String →
    Option (List (String × Value) × List (String × DeclaredType))
  | [] => some ([], [])
  | name :: rest =>
      match caller.initialValue? region name, caller.prologue? region rest with
      | some (value, certain), some (values, others) =>
          some ((name, value) :: values, certain ++ others)
      | _, _ => none

def programTypes (caller : Caller) (names : List String) : List (String × DeclaredType) :=
  names.filterMap fun name =>
    match caller.frame.types.get? name with
    | some .variant | some .object | none => none
    | some type => some (name, type)

def lower? (caller : Caller) (loop : Statement) : Option Lowered := do
  let region := Node.statement loop
  let procedures := region.reachableProcedures caller.scope
  let names ← procedures.foldlM caller.addProcedure? (caller.loopNames region)
  let used := names.used.toList
  let (values, certain) ← caller.prologue? region used
  let visible := used.filter fun name =>
    (caller.scope.getGlobal name).toBool || !caller.frame.inProcedure
  let context : LoweringContext := { caller, store := Std.TreeMap.ofList values }
  let functions ← names.functions.mapM fun (procedure, locals) =>
    context.lowerProcedure? procedure locals
  let body ← context.lowerStatement? [] loop
  some
    { program :=
        { prologue := Std.TreeMap.ofList values
          types := Std.TreeMap.ofList (caller.programTypes used)
          shared := names.shared.insertMany visible
          functions := Std.TreeMap.ofList (functions.map fun function => (function.name, function))
          body
          captures := names.captures }
      certain }

end Caller

end MacroSandbox
