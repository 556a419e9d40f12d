import MacroSandbox.Evaluation.Resolution

/-! Chains of members and calls that read from the document instead of being evaluated: cells of a
sheet and texts of shapes. -/

namespace MacroSandbox

/-! ## Chains -/

structure Link where
  name : String
  arguments : Option (List Expr) := none

namespace Link

def isNamed (link : Link) (names : List String) : Bool :=
  names.any fun name => Text.sameIgnoringCase link.name name

def picksFrom (link : Link) (collections : List String) : Bool :=
  link.isNamed collections &&
    match link.arguments with
    | some [_] => true
    | _ => false

end Link

namespace Expr

/-- The links of a chain, last first. A link has at most one list of arguments. -/
def reversedLinks? : Expr → Option (List Link)
  | .var name => some [{ name }]
  | .receiver => some []
  | .member object name => object.reversedLinks?.map ({ name } :: ·)
  | .call callee arguments =>
      match callee.reversedLinks? with
      | some ({ name, arguments := none } :: rest) =>
          some ({ name, arguments := some arguments } :: rest)
      | _ => none
  | _ => none

def links? (expression : Expr) : Option (List Link) :=
  expression.reversedLinks?.map List.reverse

def isChain : Expr → Bool
  | .member .. | .call .. => true
  | _ => false

/-! ## Constant expressions -/

/-- Whether the expression combines numbers by `+`, `-`, `*`, `/` and unary minus only. -/
def isNumeral : Expr → Bool
  | .literal (.integer _) | .literal (.float _) => true
  | .unary .negate operand => operand.isNumeral
  | .binary operator left right =>
      (match operator with
        | .add | .subtract | .multiply | .divide => true
        | _ => false) &&
        left.isNumeral && right.isNumeral
  | _ => false

/-- Whether the value of the expression is worth remembering: it combines numbers with at least one
operator. -/
def isConstant : Expr → Bool
  | .binary operator left right => (Expr.binary operator left right).isNumeral
  | .unary operator operand => (Expr.unary operator operand).isNumeral
  | _ => false

end Expr

/-! ## Cells -/

/-- The arguments of a chain that reads a cell: the sheet, and the cell in it. -/
inductive CellArguments
  | reference (sheet reference : Expr)
  | position (sheet row column : Expr)
  | other (sheet : Expr)

/-- The cell arguments of the links from the sheet on: `Sheets(s).Range("A1")` or
`Sheets(s).Cells(r, c)`, with a final `.Value`, `.Value2`, `.Text` or none. -/
def CellArguments.ofLinks? : List Link → Option CellArguments
  | { arguments := some [sheet], .. } :: range :: trailing =>
      let readsValue := match trailing with
        | [] => true
        | [property] => property.arguments.isNone && property.isNamed ["value", "value2", "text"]
        | _ => false
      if !readsValue then none
      else
        match range.arguments with
        | none => none
        | some arguments =>
          match arguments with
          | [cell] =>
              if range.isNamed ["range"] then some (.reference sheet cell)
              else some (.other sheet)
          | [row, column] =>
              if range.isNamed ["cells"] then some (.position sheet row column)
              else some (.other sheet)
          | _ => some (.other sheet)
  | _ => none

def Expr.cellArguments? (expression : Expr) : Option CellArguments :=
  if !expression.isChain then none
  else
    match expression.links? with
    | none => none
    | some links =>
        CellArguments.ofLinks?
          (links.dropWhile fun link => !link.picksFrom ["sheets", "worksheets"])

def gridNumber? (value : Value) : Option Nat :=
  let number := value.toInteger.toInt
  if 0 ≤ number && number < UInt32.size then some number.toNat else none

def Workbook.read? (workbook : Workbook) (heap : Heap) (sheet : Value) (cell : Cell) :
    Option Value :=
  let index := match sheet with
    | .integer number =>
        if 0 ≤ number.toInt then workbook.sheetNumbered? number.toInt.toNat else none
    | other => workbook.sheetNamed? (heap.text other)
  index.bind fun index => workbook.cell? index cell

namespace Engine

def locateCell (engine : Engine) : CellArguments → Eval (Value × Option Cell)
  | .reference sheet reference => do
      let sheet ← engine.operand sheet
      let reference ← Eval.text (← engine.operand reference)
      return (sheet, Cell.ofReference? reference)
  | .position sheet row column => do
      let sheet ← engine.operand sheet
      let row ← engine.operand row
      let column ← engine.operand column
      let cell := match gridNumber? row, gridNumber? column with
        | some row, some column => some { row, column : Cell }
        | _, _ => none
      return (sheet, cell)
  | .other sheet => do
      let sheet ← engine.operand sheet
      return (sheet, none)

def readCell? (engine : Engine) (expression : Expr) : Eval (Option Value) := do
  match (← read).document with
  | none => return none
  | some workbook =>
    match expression.cellArguments? with
    | none => return none
    | some arguments =>
        let (sheet, cell) ← engine.locateCell arguments
        match cell with
        | some cell => return workbook.read? (← get).heap sheet cell
        | none => return none

/-! ## Texts of shapes -/

def readObjectText? (engine : Engine) (expression : Expr) : Eval (Option Value) := do
  match expression with
  | .member .. =>
      let shape := (expression.links?.getD []).find? fun link =>
        link.picksFrom ["shapes", "inlineshapes"]
      match shape with
      | some { name, arguments := some [argument] } =>
          let identifier ← Eval.text (← engine.operand argument)
          return ObjectText.find? (← read).text name identifier
      | _ => return none
  | _ => return none

end Engine

end MacroSandbox
