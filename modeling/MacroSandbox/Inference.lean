import MacroSandbox.Analysis

/-! Guesses about the type of a variable that has no value yet, from the assignments to it. -/

namespace MacroSandbox

inductive InferredType
  | integer
  | string
  deriving Repr, DecidableEq, Inhabited

namespace InferredType

def declared : InferredType → DeclaredType
  | .integer => .integer
  | .string => .string

def ofDeclared : DeclaredType → InferredType
  | .string => .string
  | _ => .integer

end InferredType

def calledType? (environment : Environment) (scope : Scope) (name : String) :
    Option InferredType :=
  match scope.procedure? name with
  | some procedure => procedure.returnType.map .ofDeclared
  | none =>
      let foreignName := (environment.externals.get? name).bind (·.foreignName)
      match environment.library.get? (foreignName.getD name) with
      | some function => function.returnType.map .ofDeclared
      | none => none

/-- The type of an expression, if its shape or a declared type shows it. Of the two sides of an
addition the right one decides if it can. -/
def Expr.inferredType? (environment : Environment) (scope : Scope) : Expr → Option InferredType
  | .call (.var name) _ => calledType? environment scope name
  | .unary .. => some .integer
  | .binary .concatenate _ _ => some .string
  | .binary .add left right =>
      (right.inferredType? environment scope).or (left.inferredType? environment scope)
  | .binary .. => some .integer
  | .var name =>
      if (scope.procedure? name).isSome then calledType? environment scope name else none
  | _ => none

/-- Pieces of source text that only occur where text is computed. -/
def textMarkers : List String :=
  ["cstr(", "chr(", "left(", "right(", "mid(", "join(", "lcase(", "replace(", "trim(", "ucase(",
    "chrw(", " & "]

def Expr.assignedType? (environment : Environment) (scope : Scope) (heap : Heap)
    (expression : Expr) : Option InferredType :=
  match expression.inferredType? environment scope with
  | some type => some type
  | none =>
      let source := Text.asciiLower (expression.render heap)
      if textMarkers.any (Text.contains · source) then some .string else none

/-- The type of a variable from the assignments to it in a part, and whether one of them shows it.
Without one the guess is an integer. -/
def inferType (environment : Environment) (scope : Scope) (heap : Heap) (name : String)
    (region : Node) : InferredType × Bool :=
  match (region.valuesAssignedTo name).findSome? (·.assignedType? environment scope heap) with
  | some type => (type, true)
  | none => (.integer, false)

end MacroSandbox
