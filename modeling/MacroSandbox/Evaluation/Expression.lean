import MacroSandbox.Arrays
import MacroSandbox.Evaluation.Operand
import MacroSandbox.Operators

/-! The evaluation of expressions. -/

namespace MacroSandbox

namespace Expr

/-- The text of a member or a call; a leading dot is completed by the innermost `With` object. -/
def qualifiedText (expression : Expr) (state : State) : String :=
  let source := expression.render state.heap
  match state.frame.receiverName? with
  | some object => if Text.startsWith "." source then object ++ source else source
  | none => source

def isReceiver : Expr → Bool
  | .receiver => true
  | _ => false

end Expr

/-! ## The error object -/

def ErrorInfo.property (error : ErrorInfo) (lower : String) : Value :=
  if lower == "number" then .integer (Int64.ofInt error.number)
  else if lower == "description" then .text error.description
  else .text ""

/-- The fault that emulated code raises with these arguments: a number, and a description as the
third one. A number that is too large for an error number counts as 5. -/
def raisedFault (heap : Heap) (arguments : List Value) : Fault :=
  let number := match arguments.head? with
    | some value =>
        let number := value.toInteger.toInt
        if -0x80000000 ≤ number && number < 0x80000000 then number else 5
    | none => 5
  let message := match arguments[2]? with
    | some value => heap.text value
    | none => "Application-defined or object-defined error"
  .runtime number message

def Eval.callErrorMethod (lower : String) (arguments : List Value) : Eval Value := do
  if lower == "raise" then Eval.raise (raisedFault (← get).heap arguments)
  else
    if lower == "clear" then Eval.clearErrorInfo
    return .null

/-! ## Containers -/

def Eval.containerProperty? (container : Value) (lower : String) : Eval (Option Value) := do
  match container with
  | .map place =>
      let entries := (← get).heap.map place
      if lower == "count" then return some (.integer (Int64.ofNat entries.size))
      else if lower == "keys" then
        some <$> Eval.allocate fun heap => heap.newList (entries.keys.map Value.text).toArray
      else if lower == "items" then
        some <$> Eval.allocate fun heap => heap.newList entries.values.toArray
      else return none
  | .list place =>
      if lower == "count" then return some (.integer (Int64.ofNat ((← get).heap.list place).size))
      else return none
  | _ => return none

def Eval.modifyMap (place : Nat)
    (change : Std.TreeMap String Value → Std.TreeMap String Value) : Eval Unit :=
  modify fun state => { state with heap := state.heap.modifyMap place change }

def Eval.callMapMethod? (place : Nat) (lower : String) (arguments : List Value) :
    Eval (Option Value) := do
  let heap := (← get).heap
  let key := (arguments.head?.map heap.text).getD ""
  if lower == "add" then
    Eval.modifyMap place fun entries => entries.insert key (arguments.getD 1 .null)
    return some .null
  else if lower == "exists" then return some (.boolean ((heap.map place).contains key))
  else if lower == "item" then return some ((heap.map place).getD key .null)
  else if lower == "remove" then
    Eval.modifyMap place fun entries => entries.erase key
    return some .null
  else if lower == "removeall" then
    Eval.modifyMap place fun _ => ∅
    return some .null
  else return none

def Eval.callContainerMethod? (container : Value) (lower : String) (arguments : List Value) :
    Eval (Option Value) := do
  match container with
  | .map place => Eval.callMapMethod? place lower arguments
  | .list _ =>
      if lower == "item" then
        return some (← Eval.lift (indexValue (← get).heap container arguments))
      else return none
  | _ => return none

namespace Engine

/-! ## `With` objects -/

def putBack (receiver : Receiver) (state : State) : State :=
  { state with frame.receivers := receiver :: state.frame.receivers }

def rememberReceiver (value : Value) : Frame → Frame := fun frame =>
  match frame.receivers with
  | [] => frame
  | receiver :: outer => { frame with receivers := { receiver with value := some value } :: outer }

/-- The value of the innermost `With` object, which is evaluated at its first use, outside the
block. An object that cannot be evaluated is null. -/
def receiverValue? (engine : Engine) : Eval (Option Value) := do
  match (← get).frame.receivers with
  | [] => return none
  | receiver :: _ =>
    match receiver.value with
    | some value => return some value
    | none =>
        Eval.popReceiver
        let outcome ←
          Eval.afterwards (Eval.attempt (engine.node receiver.object)) (putBack receiver)
        let value := outcome.toOption.getD .null
        Eval.modifyFrame (rememberReceiver value)
        return some value

def objectValue (engine : Engine) (object : Expr) : Eval Value := do
  match object with
  | .receiver => return (← engine.receiverValue?).getD .null
  | other => engine.operand other

/-! ## Variables and members -/

/-- The value of a variable. Procedures and functions may be called without parentheses. -/
def variableValue (engine : Engine) (name : String) : Eval Value := do
  if Text.sameIgnoringCase name "err" then
    return .integer (Int64.ofInt (← get).run.lastError.number)
  match ← Eval.lookup? name with
  | some value => return value
  | none =>
    match ← Eval.procedure? name with
    | some procedure => engine.call procedure []
    | none =>
      match plainFunction? (← read).library name with
      | some function => Eval.callLibrary function []
      | none => engine.resolve true name

/-- A property that the object of a member has itself: one of a list or a map, or a variable that is
named by the text of the `With` object. -/
def ownProperty? (object : Expr) (value : Value) (name : String) : Eval (Option Value) := do
  match ← Eval.containerProperty? value (Text.asciiLower name) with
  | some property => return some property
  | none =>
    match value with
    | .text content =>
        if object.isReceiver then Eval.lookup? (content ++ "." ++ name) else return none
    | _ => return none

/-- The value of a member. A variable with the whole text as its name comes first. -/
def memberValue (engine : Engine) (object : Expr) (name : String) : Eval Value := do
  if object.isVar "err" then
    return (← get).run.lastError.property (Text.asciiLower name)
  let source := (Expr.member object name).qualifiedText (← get)
  match ← Eval.lookup? source with
  | some value => return value
  | none =>
      let value ← engine.objectValue object
      match ← ownProperty? object value name with
      | some property => return property
      | none => engine.resolve false source

/-! ## Calls -/

/-- Calls a method: of the error object, of a list or a map, of the library, or else a procedure
that is qualified by its module. Anything else is the name that its text spells. -/
def callMethod (engine : Engine) (expression object : Expr) (name : String)
    (arguments : List Expr) : Eval Value := do
  let lower := Text.asciiLower name
  if object.isVar "err" then
    let values ← engine.operands arguments
    Eval.callErrorMethod lower values
  else
    let container ← engine.objectValue object
    let values ← engine.operands arguments
    match ← Eval.callContainerMethod? container lower values with
    | some value => return value
    | none =>
      match (← read).library.get? name with
      | some function => Eval.callLibrary function values
      | none =>
        match ← Eval.procedure? name with
        | some procedure => engine.call procedure values
        | none => engine.resolve false (expression.qualifiedText (← get))

/-- Calls a function by name. The name of a function that does not exist is null, except for a
collection of shapes, which keeps its text until a member of it is read. -/
def callByName (engine : Engine) (expression : Expr) (name : String) (arguments : List Expr) :
    Eval Value := do
  let values ← engine.operands arguments
  match ← engine.callFunction? name values with
  | some value => return value
  | none =>
      let lower := Text.asciiLower name
      if lower == "shapes" || lower == "inlineshapes" then
        return .text (expression.render (← get).heap)
      else return .null

def isContainer : Value → Bool
  | .list _ | .map _ => true
  | _ => false

def callValue (engine : Engine) (expression callee : Expr) (arguments : List Expr) :
    Eval Value := do
  match callee with
  | .var name =>
      match (← Eval.lookup? name).filter isContainer with
      | some container =>
          let indices ← engine.operands arguments
          Eval.lift (indexValue (← get).heap container indices)
      | none => engine.callByName expression name arguments
  | .member object name => engine.callMethod expression object name arguments
  | other =>
      let container ← engine.node other
      let indices ← engine.operands arguments
      Eval.lift (indexValue (← get).heap container indices)

/-! ## Expressions -/

def nodeValue (engine : Engine) (expression : Expr) : Eval Value := do
  Eval.tick
  match expression with
  | .literal value => return value
  | .var name => engine.variableValue name
  | .receiver => return (← engine.receiverValue?).getD .null
  | .unary operator operand => return operator.apply (← engine.operand operand)
  | .binary operator left right =>
      let left ← engine.operand left
      let right ← engine.operand right
      Eval.lift (operator.apply (← get).heap left right)
  | .member object name => engine.memberValue object name
  | .call callee arguments => engine.callValue expression callee arguments

def cachedConstant? (source : String) : Eval (Option Value) :=
  modifyGet fun state =>
    let (value, caches) := state.caches.constant? source
    (value, { state with caches })

def rememberConstant (source : String) (value : Value) : Eval Unit :=
  modify fun state => { state with caches := state.caches.storeConstant source value }

/-- What an expression reads from the document, else its value. A value that spells the path of a
shape stands for the text of the shape. -/
def documentOrNodeValue (engine : Engine) (expression : Expr) : Eval Value := do
  match ← engine.readCell? expression with
  | some value => return value
  | none =>
    match ← engine.readObjectText? expression with
    | some value => return value
    | none =>
      match ← engine.nodeValue expression with
      | .text content => return (ObjectText.atPath? (← read).text content).getD (.text content)
      | value => return value

def constantValue (engine : Engine) (expression : Expr) : Eval Value := do
  let source := expression.render (← get).heap
  match ← cachedConstant? source with
  | some value => return value
  | none =>
      let value ← engine.nodeValue expression
      rememberConstant source value
      return value

def operandValue (engine : Engine) (expression : Expr) : Eval Value := do
  Eval.check
  match expression with
  | .literal value => return value
  | expression =>
    if expression.isConstant then engine.constantValue expression
    else engine.documentOrNodeValue expression

end Engine

end MacroSandbox
