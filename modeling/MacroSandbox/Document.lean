import MacroSandbox.Names
import MacroSandbox.Number.Numeral
import MacroSandbox.Text.Search
import MacroSandbox.Value
import Std.Data.HashMap

/-! The document that carries the emulated program: the cells of its sheets, and the texts that were
extracted from elsewhere in it. -/

namespace MacroSandbox

/-! ## Cell references -/

/-- A cell of a sheet. Rows and columns count from one. -/
structure Cell where
  row : Nat
  column : Nat
  deriving Repr, DecidableEq, Inhabited, BEq, Hashable

namespace Cell

def columnNumber (letters : List Char) : Nat :=
  letters.foldl (fun sum letter => sum * 26 + (letter.toUpper.toNat - 0x40)) 0

/-- The cell that a reference such as `B7` or `$C$2` names: one to three letters, then a row. -/
def ofReference? (reference : String) : Option Cell :=
  let characters := (Text.trim reference).toList.filter (· != '$')
  let letters := characters.takeWhile (!·.isDigit)
  let digits := characters.dropWhile (!·.isDigit)
  if letters.isEmpty || 3 < letters.length || !letters.all Char.isAlpha then none
  else
    match Numeral.below? 10 UInt32.size digits with
    | some row => if row == 0 then none else some { row, column := columnNumber letters }
    | none => none

end Cell

/-! ## Workbooks -/

structure Sheet where
  name : String
  cells : Std.HashMap Cell Value := ∅
  deriving Inhabited

structure Workbook where
  sheets : Array Sheet := #[]
  deriving Inhabited

namespace Workbook

def withFirstSheet : Workbook := { sheets := #[{ name := "Sheet1" }] }

def addSheet (workbook : Workbook) (name : String) : Nat × Workbook :=
  (workbook.sheets.size, { sheets := workbook.sheets.push { name } })

def setCell (workbook : Workbook) (sheet : Nat) (cell : Cell) (value : Value) : Workbook :=
  { sheets := workbook.sheets.modify sheet fun page =>
      { page with cells := page.cells.insert cell value } }

def sheetNamed? (workbook : Workbook) (name : String) : Option Nat :=
  workbook.sheets.findIdx? fun page => Text.sameIgnoringCase page.name name

/-- The position of a sheet by its number, which counts from one. -/
def sheetNumbered? (workbook : Workbook) (number : Nat) : Option Nat :=
  if number == 0 || workbook.sheets.size < number then none else some (number - 1)

def cell? (workbook : Workbook) (sheet : Nat) (cell : Cell) : Option Value :=
  match workbook.sheets[sheet]? with
  | some page => page.cells.get? cell
  | none => none

/-- Gives the cell that a reference names a value, or returns nothing if the sheet or the reference
is not valid. -/
def setReference? (workbook : Workbook) (sheet reference : String) (value : Value) :
    Option Workbook :=
  match workbook.sheetNamed? sheet, Cell.ofReference? reference with
  | some index, some cell => some (workbook.setCell index cell value)
  | _, _ => none

end Workbook

/-! ## Texts of the document -/

/-- Texts outside the program: document variables and the texts of shapes and form controls by name,
and metadata by field. -/
structure DocumentText where
  texts : NameMap String := {}
  fields : NameMap String := {}
  deriving Inhabited

namespace DocumentText

def setVariable (text : DocumentText) (name content : String) : DocumentText :=
  { text with texts := text.texts.insert name content }

def variableText? (text : DocumentText) (name : String) : Option String :=
  text.texts.get? name

def setField (text : DocumentText) (field content : String) : DocumentText :=
  { text with fields := text.fields.insert field content }

/-- The text of a metadata field, in which a line break is stored as an escape. -/
def fieldText? (text : DocumentText) (field : String) : Option String :=
  (text.fields.get? field).map fun content =>
    Text.replace "_x000D_" "\n" (Text.replace "_x000d_" "\n" content)

end DocumentText

end MacroSandbox
