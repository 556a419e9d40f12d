import MacroSandbox.Evaluation.Engine
import MacroSandbox.Library.Host

/-! What a name stands for that no table holds.

Source text does not tell a variable, the text of a shape, a document property and the field of a
form apart, so a name that is no variable is tried as one after the other, in a fixed order. A name
that stands for nothing is its own text. -/

namespace MacroSandbox

/-! ## Identifiers and paths -/

/-- Whether a text is an identifier: a letter or an underscore, then letters, digits, underscores
and dollar signs. Only ASCII letters count. -/
def isIdentifier (name : String) : Bool :=
  match name.toList with
  | [] => false
  | first :: rest =>
      (first.isAlpha || first == '_') &&
        rest.all fun character => character.isAlphanum || character == '_' || character == '$'

/-- What follows each dot of a path, from the first dot on: `b.c` and `c` for `a.b.c`. -/
def afterDots : List Char → List (List Char)
  | [] => []
  | character :: rest => if character == '.' then rest :: afterDots rest else afterDots rest

/-! ## Texts of shapes -/

namespace ObjectText

def variableName (collection identifier : String) : String :=
  Text.asciiLower collection ++ "('" ++ Text.asciiLower (Text.trim identifier) ++
    "').textframe.textrange.text"

/-- The text of an object of a collection. The first object stands in for one without a text. -/
def find? (text : DocumentText) (collection identifier : String) : Option Value :=
  match text.variableText? (variableName collection identifier) with
  | some content => some (.text content)
  | none => (text.variableText? (variableName collection "1")).map .text

/-- What stands between the first opening parenthesis and the first closing one after it. -/
def argument? (path : List Char) : Option (List Char) :=
  let inside := (path.dropWhile (· != '(')).drop 1
  if inside.contains ')' then some (inside.takeWhile (· != ')')) else none

def collection? (path : String) : Option String :=
  let start :=
    Text.asciiLower ((Text.dropWhile Text.isBlank path).take "inlineshapes(".length).copy
  if Text.startsWith "shapes(" start then some "shapes"
  else if Text.startsWith "inlineshapes(" start then some "inlineshapes"
  else none

def atPath? (text : DocumentText) (path : String) : Option Value := do
  let collection ← collection? path
  let identifier ← argument? (Text.asciiLower (Text.trim path)).toList
  let bare := Text.trimWhere (fun character => character == '\'' || character == '"')
    (Text.trimWhere Text.isBlank identifier)
  find? text collection (String.ofList bare)

end ObjectText

/-! ## Document nodes and selections -/

/-- The typed value of a document node is read from its text, which is Base64 if it can be; the
selected item of a list is kept under a longer name. -/
def siblingValue? (scope : Scope) (heap : Heap) (lower : String) : Option Value :=
  match Text.dropEnd? ".nodetypedvalue" lower with
  | some node =>
      (scope.get? (node ++ ".text")).map fun value =>
        match Base64.decode? (Text.trim (heap.text value)).toList with
        | some bytes => .text (textOfBytes bytes)
        | none => value
  | none =>
    match Text.dropEnd? ".selecteditem" lower with
    | some node => scope.get? (node ++ ".rapt.value")
    | none => none

/-! ## Document properties -/

/-- The argument of a property: what follows `start`, without a final `.value`, parentheses and
quotes. An argument without quotes that names a variable is the text of the variable. -/
def propertyArgument? (scope : Scope) (heap : Heap) (start lower : String) : Option String :=
  match Text.dropStart? start lower with
  | none => none
  | some rest =>
      let raw := ((Text.dropEnd? ".value" rest).getD rest).toList
      let isQuote (character : Char) : Bool := character == '"' || character == '\''
      let bare := raw.filter fun character =>
        !(character == '(' || character == ')' || isQuote character)
      let name := Text.trim (String.ofList bare)
      if raw.any isQuote then some name
      else
        match scope.get? name with
        | some value => some (heap.text value)
        | none => some name

/-- The first collection of document properties that a path starts with, and the text of the
property in it. -/
def documentProperty? (scope : Scope) (heap : Heap) (text : DocumentText) (lower : String) :
    Option String :=
  let variableOrField (name : String) : Option String :=
    match text.variableText? name with
    | some content => some content
    | none => text.fieldText? name
  let collections : List (String × (String → Option String)) :=
    [("activedocument.item(", text.fieldText?),
     ("thisdocument.builtindocumentproperties(", variableOrField),
     ("activeworkbook.builtindocumentproperties(", variableOrField),
     ("activedocument.builtindocumentproperties(", variableOrField),
     ("activedocument.variables(", text.variableText?),
     ("activedocument.customdocumentproperties(", text.variableText?)]
  let found := collections.findSome? fun (start, read) =>
    (propertyArgument? scope heap start lower).map fun name => read name
  found.getD none

/-! ## Form fields -/

def numberedField? (scope : Scope) (lower : String) : Option Value :=
  let form := String.ofList (lower.toList.takeWhile (· != '.'))
  (List.range 11).findSome? fun number => scope.get? (form ++ "*" ++ toString number)

/-- Properties of form controls that read as empty when nothing was extracted for them. -/
def formProperties : List String :=
  [".tag", ".boundvalue", ".column", ".caption", ".groupname", ".seltext", ".controltiptext",
    ".passwordchar", ".controlsource", ".value"]

/-! ## Calls by name -/

namespace Engine

/-- Calls a procedure, a declared external function or a function of the library by name. A declared
function that the library does not know does nothing and answers zero. -/
def callFunction? (engine : Engine) (name : String) (arguments : List Value) :
    Eval (Option Value) := do
  match ← Eval.procedure? name with
  | some procedure => return some (← engine.call procedure arguments)
  | none =>
    let library := (← read).library
    match (← read).externals.get? name with
    | some external =>
        let function := match library.get? (external.foreignName.getD external.name) with
          | some function => some function
          | none => library.get? external.name
        match function with
        | some function => return some (← Eval.callLibrary function arguments)
        | none => return some (.integer 0)
    | none =>
      match library.get? name with
      | some function => return some (← Eval.callLibrary function arguments)
      | none => return none

def plainFunction? (library : Library) (name : String) : Option LibraryFunction :=
  (library.get? name).filter fun function => function.arity.admits 0

/-- A path as the longest tail of it that is a variable with another text, else as a call of its
last part without arguments. -/
def pathValue? (engine : Engine) (path : String) : Eval (Option Value) := do
  let scope ← Eval.scope
  let heap := (← get).heap
  let tails := (afterDots path.toList).map String.ofList
  let found := tails.findSome? fun tail =>
    (scope.get? tail).filter fun value => heap.text value != path
  match found, tails.getLast? with
  | some value, _ => return some value
  | none, none => return none
  | none, some name =>
      let callable := (scope.procedure? name).isSome ||
        (plainFunction? (← read).library name).isSome
      if isIdentifier name && callable then engine.callFunction? name [] else return none

def dottedValue? (engine : Engine) (path : String) : Eval (Option Value) := do
  let text := (← read).text
  match text.variableText? path with
  | some content => return some (.text content)
  | none =>
    match ← engine.pathValue? path with
    | some value => return some value
    | none =>
      let lower := Text.asciiLower path
      let scope ← Eval.scope
      let heap := (← get).heap
      match documentProperty? scope heap text lower with
      | some content => return some (.text content)
      | none =>
        match numberedField? scope lower with
        | some value => return some value
        | none =>
          if formProperties.any fun ending => Text.endsWith ending lower then
            return some (.text "")
          else return none

/-- The value of a name. A name that stands for nothing is unresolved if it is an identifier where a
variable is expected, and else its own text. -/
def resolve (engine : Engine) (variableExpected : Bool) (name : String) : Eval Value := do
  Eval.check
  let name := Text.trim name
  let scope ← Eval.scope
  match scope.get? name with
  | some value => return value
  | none =>
    match siblingValue? scope (← get).heap (Text.asciiLower name) with
    | some value => return value
    | none =>
      match ObjectText.atPath? (← read).text name with
      | some value => return value
      | none =>
        let dotted ← if Text.any (· == '.') name then engine.dottedValue? name else pure none
        match dotted with
        | some value => return value
        | none =>
          if variableExpected && isIdentifier name then return .unresolved else return .text name

end Engine

end MacroSandbox
