import MacroSandbox.Encoding.Base64
import MacroSandbox.Encoding.Hex
import MacroSandbox.State

/-! What names mean in a frame: reading and writing variables.

A name with a leading dot is first read as a member of the innermost `With` object. A name is looked
up among the locals, the globals and the constants, in this order; a name that is found nowhere is
tried again without a trailing `$`. -/

namespace MacroSandbox

/-! ## Reading -/

structure Scope where
  locals : NameMap Binding
  globals : NameMap Binding
  constants : Constants
  receiver : Option String

def State.scope (state : State) (environment : Environment) : Scope :=
  { locals := state.frame.locals
    globals := state.run.globals
    constants := environment.constants
    receiver := state.frame.receiverName? }

structure Found where
  value : Value
  isLocal : Bool

namespace Scope

def qualified? (scope : Scope) (name : String) : Option String :=
  if Text.startsWith "." name then scope.receiver.map (· ++ name) else none

def bound? (scope : Scope) (globalsOnly : Bool) (name : String) : Option Found :=
  let localValue := if globalsOnly then none else (scope.locals.get? name).bind Binding.value?
  match localValue with
  | some value => some { value, isLocal := true }
  | none =>
    match (scope.globals.get? name).bind Binding.value? with
    | some value => some { value, isLocal := false }
    | none => (scope.constants.get? name).map fun value => { value, isLocal := false }

/-- Looks up a name in at most `steps` steps; `none` says that more are needed. The object of a
`With` block whose text is empty or starts with a dot needs more than any number of steps, because
its members are members again. -/
def lookupWithin (scope : Scope) (globalsOnly : Bool) :
    (steps : Nat) → String → Option (Except Fault Found)
  | 0, _ => none
  | steps + 1, name =>
      let qualified := match scope.qualified? name with
        | some full => scope.lookupWithin globalsOnly steps full
        | none => some (.error (.undefinedVariable name))
      match qualified with
      | none => none
      | some (.ok found) => some (.ok found)
      | some (.error _) =>
        match scope.bound? globalsOnly name with
        | some found => some (.ok found)
        | none =>
          match Text.dropEnd? "$" name with
          | some stripped => scope.lookupWithin globalsOnly steps stripped
          | none => some (.error (.undefinedVariable name))

/-- Enough steps for every lookup that ends, and more than a host can make: a lookup that does not end
uses up its host first. -/
def steps (name : String) : Nat :=
  0x4000000000000000 + name.length

@[irreducible] def lookup (scope : Scope) (globalsOnly : Bool) (name : String) : Except Fault Found :=
  let name := Text.trim name
  (scope.lookupWithin globalsOnly (steps name) name).getD (.error (.undefinedVariable name))

def get (scope : Scope) (name : String) : Except Fault Value :=
  (scope.lookup false name).map Found.value

def getGlobal (scope : Scope) (name : String) : Except Fault Value :=
  (scope.lookup true name).map Found.value

def get? (scope : Scope) (name : String) : Option Value :=
  (scope.get name).toOption

/-- The procedure of a name. Procedures are global, so a local variable does not hide one. -/
def procedure? (scope : Scope) (name : String) : Option Procedure :=
  (scope.globals.get? (Text.trim name)).bind Binding.procedure?

end Scope

/-! ## Writing -/

inductive Placement
  /-- Where the name is bound; a new name is local inside a procedure and global outside. -/
  | automatic
  | local
  | global
  deriving Repr, DecidableEq, Inhabited

def textOfBytes (bytes : List UInt8) : String :=
  String.ofList (bytes.map fun byte => Char.ofNat byte.toNat)

namespace State

def bindsGlobally (state : State) (placement : Placement) (name : String) : Bool :=
  match placement with
  | .global => true
  | .local => false
  | .automatic =>
      if state.frame.locals.contains name then false
      else if state.run.globals.contains name then true
      else !state.frame.inProcedure

def bind (state : State) (placement : Placement) (name : String) (binding : Binding) : State :=
  if state.bindsGlobally placement name then
    { state with run.globals := state.run.globals.insert name binding }
  else { state with frame.locals := state.frame.locals.insert name binding }

/-- A document node converts between its text and its typed value: writing one writes the other. The
typed value of `x` is read from its text as `x.datatype` says; its text is the Base64 of the typed
value. -/
def convertNode (environment : Environment) (state : State) (placement : Placement)
    (name : String) (value : Value) : State :=
  let lower := Text.asciiLower name
  match Text.dropEnd? ".text" lower with
  | some node =>
      match (state.scope environment).get? (node ++ ".datatype") with
      | none => state
      | some dataType =>
          let text := state.heap.text value
          let kind := Text.asciiLower (state.heap.text dataType)
          let decoded :=
            if kind == "bin.base64" then Base64.decode? (Text.trim text).toList
            else if kind == "bin.hex" then Hex.decode? text
            else none
          match decoded with
          | some bytes =>
              state.bind placement (node ++ ".nodetypedvalue") (.value (.text (textOfBytes bytes)))
          | none => state
  | none =>
    match Text.dropEnd? ".nodetypedvalue" lower with
    | some node =>
        let encoded := String.ofList (Base64.encode (state.heap.bytes value).data.toList)
        state.bind placement (node ++ ".text") (.value (.text encoded))
    | none => state

def storedName (state : State) (name : String) : String :=
  let name := Text.trim name
  if Text.startsWith "." name then
    match state.frame.receiverName? with
    | some receiver => receiver ++ name
    | none => name
  else name

def scanValue (state : State) : Value → State
  | .text content => { state with run.indicators := state.run.indicators.scan content }
  | _ => state

def assign (environment : Environment) (state : State) (placement : Placement)
    (type : Option DeclaredType) (name : String) (value : Value) : State :=
  let name := state.storedName name
  let state := match type with
    | some type => { state with frame.types := state.frame.types.insert name type }
    | none => state
  let value := state.heap.coerceTo (state.frame.types.get? name) value
  let state := state.scanValue value
  let state := state.convertNode environment placement name value
  state.bind placement name (.value value)

def set (environment : Environment) (state : State) (name : String) (value : Value) : State :=
  state.assign environment .automatic none name value

def setProcedure (state : State) (procedure : Procedure) : State :=
  { state with run.globals := state.run.globals.insert procedure.name (.procedure procedure) }

def binding? (state : State) (name : String) : Option Binding :=
  let name := Text.trim name
  match state.frame.locals.get? name with
  | some binding => some binding
  | none => state.run.globals.get? name

def knows (state : State) (name : String) : Bool :=
  state.frame.locals.contains name || state.run.globals.contains name ||
    state.frame.types.contains name

def forget (state : State) (name : String) : State :=
  let state :=
    if state.frame.locals.contains name then
      { state with frame.locals := state.frame.locals.erase name }
    else { state with run.globals := state.run.globals.erase name }
  { state with frame.types := state.frame.types.erase name }

def setType (state : State) (name : String) (type : DeclaredType) : State :=
  { state with frame.types := state.frame.types.insert name type }

end State

end MacroSandbox
