import MacroSandbox.Program.Render
import MacroSandbox.Scope
import Std.Data.TreeSet

/-! Which names a part of a program reads, writes and calls. Names are in lower case. -/

namespace MacroSandbox

/-! ## Names that are read -/

/-- The variables that a part reads, and the names that it calls. A name that is called may be an
array or a function. -/
structure Reads where
  vars : List String := []
  callees : List String := []
  deriving Repr, DecidableEq, Inhabited

instance : Append Reads where
  append left right :=
    { vars := left.vars ++ right.vars, callees := left.callees ++ right.callees }

def Reads.join (parts : List Reads) : Reads :=
  parts.foldr (· ++ ·) {}

namespace Node

def ownReads : Node → Reads
  | .expr (.var name) => { vars := [Text.asciiLower name] }
  | .expr (.call (.var name) _) | .statement (.call (.var name)) =>
      { callees := [Text.asciiLower name] }
  | _ => {}

/-- The children that read for themselves: all but the names that are called. -/
def readingChildren : Node → List Node
  | .expr (.call (.var _) arguments) => arguments.map .expr
  | .statement (.call (.var _)) => []
  | node => node.children

theorem mem_children_of_reading {node child : Node} (member : child ∈ node.readingChildren) :
    child ∈ node.children := by
  unfold readingChildren at member
  split at member
  · exact List.mem_cons_of_mem _ member
  · cases member
  · exact member

def reads (node : Node) : Reads :=
  node.ownReads ++ Reads.join (node.readingChildren.attach.map fun child => child.1.reads)
termination_by sizeOf node
decreasing_by exact sizeOf_lt_of_mem_children (mem_children_of_reading child.2)

end Node

/-! ## Names that are written -/

namespace Expr

/-- The variable or array that an assignment to this target writes; the target of a `Mid` statement
is not one. -/
def assignedName? : Expr → Option String
  | .var name => some name
  | .call (.var name) _ => if Text.sameIgnoringCase name "mid" then none else some name
  | _ => none

def overwrittenName? : Expr → Option String
  | .call (.var function) (.var name :: _) =>
      if Text.sameIgnoringCase function "mid" then some name else none
  | _ => none

end Expr

def Node.writtenName? : Node → Option String
  | .statement (.assign target _) =>
      (target.assignedName?.or target.overwrittenName?).map Text.asciiLower
  | .statement (.forRange index ..) | .statement (.forEach index ..) =>
      some (Text.asciiLower index)
  | _ => none

def Node.writes (node : Node) : List String :=
  node.nodes.filterMap Node.writtenName?

def Node.declaredNames (node : Node) : List String :=
  node.nodes.flatMap fun inner =>
    match inner with
    | .statement (.dim declarations) => declarations.map fun declaration =>
        Text.asciiLower declaration.name
    | _ => []

def Node.valuesAssignedTo (node : Node) (name : String) : List Expr :=
  node.nodes.filterMap fun inner =>
    match inner with
    | .statement (.assign target value) =>
        match target.assignedName? with
        | some assigned => if Text.sameIgnoringCase assigned name then some value else none
        | none => none
    | _ => none

/-! ## Procedures that may be called -/

def Node.variableName? : Node → Option String
  | .expr (.var name) => some (Text.asciiLower name)
  | _ => none

/-- The names that a part may call: every name in it, because a function without arguments is called
without parentheses. -/
def Node.mentions (node : Node) : List String :=
  node.nodes.filterMap Node.variableName?

def Scope.procedures (scope : Scope) : List Procedure :=
  scope.globals.toList.filterMap fun (_, binding) => binding.procedure?

/-- The first of several names that was not seen and is that of a procedure, with the procedure and the
names after it. -/
def Scope.nextCall? (scope : Scope) (seen : Std.TreeSet String) :
    List String → Option (String × Procedure × List String)
  | [] => none
  | name :: rest =>
      if seen.contains name then scope.nextCall? seen rest
      else
        match scope.procedure? name with
        | some procedure => some (name, procedure, rest)
        | none => scope.nextCall? seen rest

/-- Follows calls from the names in `pending`. A procedure that is called under several spellings is
found under each of them. -/
def Scope.reachFrom (scope : Scope) : (remaining : Nat) → (pending : List String) →
    (seen : Std.TreeSet String) → (found : List Procedure) → List Procedure
  | 0, _, _, found => found
  | remaining + 1, pending, seen, found =>
      match scope.nextCall? seen pending with
      | none => found
      | some (name, procedure, rest) =>
          scope.reachFrom remaining ((Node.procedure procedure).mentions ++ rest) (seen.insert name)
            (procedure :: found)

def Node.callNames (node : Node) (scope : Scope) : List String :=
  node.mentions ++ scope.procedures.flatMap fun procedure => (Node.procedure procedure).mentions

def Procedure.precedes (left right : Procedure) : Bool :=
  Text.asciiLower left.name ≤ Text.asciiLower right.name

/-- The procedures that a part may reach through calls, in the order of their names. The search ends
because it follows every name once. -/
def Node.reachableProcedures (node : Node) (scope : Scope) : List Procedure :=
  (scope.reachFrom (node.callNames scope).length node.mentions ∅ []).mergeSort Procedure.precedes

end MacroSandbox
