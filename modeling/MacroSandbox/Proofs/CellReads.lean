import MacroSandbox.Proofs.CellReferences
import MacroSandbox.Proofs.ConstantReuse
import MacroSandbox.Proofs.InterpretedDeclarations

/-! Cells that are written and read.

A cell is written by the name of its sheet and a reference, and read by a chain of members and calls.
Main statement: `Workbook.written_cell_is_read`, by which every chain that denotes the cell yields
what was written. -/

namespace MacroSandbox

/-! ## Workbooks -/

deriving instance ReflBEq, LawfulBEq for Cell

namespace Workbook

variable {workbook : Workbook} {index : Nat} {cell : Cell}

theorem sheetNamed?_setCell (workbook : Workbook) (index : Nat) (cell : Cell) (value : Value)
    (name : String) :
    (workbook.setCell index cell value).sheetNamed? name = workbook.sheetNamed? name := by
  have sameNames : (workbook.setCell index cell value).sheets.map Sheet.name =
      workbook.sheets.map Sheet.name := by
    apply Array.ext_getElem?
    intro position
    rw [setCell, Array.getElem?_map, Array.getElem?_modify, Array.getElem?_map]
    split
    · rw [Option.map_map]
      rfl
    · rfl
  have byNames : ∀ book : Workbook, book.sheetNamed? name =
      (book.sheets.map Sheet.name).findIdx? fun page => Text.sameIgnoringCase page name := by
    intro book
    rw [Array.findIdx?_map]
    rfl
  rw [byNames, byNames, sameNames]

theorem sheetNamed?_congr {left right : String} (same : Text.sameIgnoringCase left right = true) :
    workbook.sheetNamed? left = workbook.sheetNamed? right := by
  simp only [sheetNamed?, Text.sameIgnoringCase, Text.sameIgnoringCase_iff.1 same]

theorem exists_page_of_sheetNamed? {name : String} (found : workbook.sheetNamed? name = some index) :
    ∃ page, workbook.sheets[index]? = some page ∧ Text.sameIgnoringCase page.name name = true := by
  obtain ⟨inside, named, -⟩ := Array.findIdx?_eq_some_iff_getElem.1 found
  exact ⟨workbook.sheets[index], Array.getElem?_eq_getElem inside, named⟩

theorem cell?_setCell_self (inside : index < workbook.sheets.size) (value : Value) :
    (workbook.setCell index cell value).cell? index cell = some value := by
  simp [cell?, setCell, Array.getElem?_modify, Array.getElem?_eq_getElem inside]

theorem cell?_setCell_of_ne {other : Nat} {otherCell : Cell}
    (different : other ≠ index ∨ otherCell ≠ cell) (value : Value) :
    (workbook.setCell index cell value).cell? other otherCell =
      workbook.cell? other otherCell := by
  simp only [cell?, setCell, Array.getElem?_modify]
  by_cases same : index = other
  · have differentCell := different.resolve_left (not_not.2 same.symm)
    cases workbook.sheets[other]? with
    | none => simp
    | some page => simp [same, Std.HashMap.getElem?_insert, Ne.symm differentCell]
  · rw [if_neg same]

end Workbook

theorem Cell.bounds_of_ofReference? {reference : String} {cell : Cell}
    (refers : ofReference? reference = some cell) :
    cell.row < UInt32.size ∧ cell.column < UInt32.size := by
  obtain ⟨letters, digits, named⟩ := ofReference?_eq_some_iff.1 refers
  have column := columnNumber_le named.areLetters named.fewLetters.2
  rw [columnNumber_eq named.areLetters, ← named.column] at column
  exact ⟨named.rowBounds.2, Nat.lt_of_le_of_lt column (by decide)⟩

/-! ## Chains that denote a cell -/

def Text.IsAmong (name : String) (names : List String) : Prop :=
  ∃ other ∈ names, sameIgnoringCase name other = true

theorem Link.isNamed_of_isAmong {link : Link} {names : List String}
    (among : Text.IsAmong link.name names) : link.isNamed names = true :=
  List.any_eq_true.2 among

namespace Expr

def isPath : Expr → Bool
  | .var _ | .receiver => true
  | .member object _ => object.isPath
  | _ => false

inductive IsSheets : Expr → Prop
  | own {name : String} (named : Text.IsAmong name ["sheets", "worksheets"]) : IsSheets (.var name)
  | member {path : Expr} {name : String} (isPath : path.isPath = true)
      (named : Text.IsAmong name ["sheets", "worksheets"]) : IsSheets (.member path name)

/-- The expression is a range or a position of a sheet, with these arguments. -/
inductive IsCell : CellArguments → Expr → Prop
  | range {sheets key reference : Expr} {name : String} (isSheets : sheets.IsSheets)
      (named : Text.sameIgnoringCase name "range" = true) :
      IsCell (.reference key reference) (.call (.member (.call sheets [key]) name) [reference])
  | cells {sheets key row column : Expr} {name : String} (isSheets : sheets.IsSheets)
      (named : Text.sameIgnoringCase name "cells" = true) :
      IsCell (.position key row column) (.call (.member (.call sheets [key]) name) [row, column])

inductive ReadsCell (arguments : CellArguments) : Expr → Prop
  | plain {expression : Expr} (isCell : expression.IsCell arguments) :
      ReadsCell arguments expression
  | property {expression : Expr} {name : String} (isCell : expression.IsCell arguments)
      (named : Text.IsAmong name ["value", "value2", "text"]) :
      ReadsCell arguments (.member expression name)

theorem reversedLinks?_of_isPath : ∀ {path : Expr}, path.isPath = true →
    ∃ links, path.reversedLinks? = some links ∧ ∀ link ∈ links, link.arguments = none
  | .var name, _ => ⟨[{ name }], rfl, by simp⟩
  | .receiver, _ => ⟨[], rfl, by simp⟩
  | .member object name, isPath => by
      obtain ⟨links, isLinks, plain⟩ := @reversedLinks?_of_isPath object isPath
      exact ⟨{ name } :: links, by rw [reversedLinks?, isLinks]; rfl, by simpa using plain⟩
  | .literal _, isPath | .unary _ _, isPath | .binary _ _ _, isPath | .call _ _, isPath => by
      cases isPath

theorem reversedLinks?_of_isSheets {sheets : Expr} (isSheets : sheets.IsSheets) :
    ∃ name links, sheets.reversedLinks? = some ({ name } :: links) ∧
      Text.IsAmong name ["sheets", "worksheets"] ∧ ∀ link ∈ links, link.arguments = none := by
  cases isSheets with
  | own named => exact ⟨_, [], rfl, named, by simp⟩
  | member isPath named =>
      obtain ⟨links, isLinks, plain⟩ := reversedLinks?_of_isPath isPath
      exact ⟨_, links, by rw [reversedLinks?, isLinks]; rfl, named, plain⟩

/-- The links after a call of the sheets determine the cell: no link before it has arguments. -/
theorem cellArguments?_of_links {expression key : Expr} {name : String} {links : List Link}
    (isChain : expression.isChain = true) (named : Text.IsAmong name ["sheets", "worksheets"])
    (plain : ∀ link ∈ links, link.arguments = none) (trailing : List Link)
    (isLinks : expression.reversedLinks? =
      some (trailing.reverse ++ { name, arguments := some [key] } :: links)) :
    expression.cellArguments? =
      CellArguments.ofLinks? ({ name, arguments := some [key] } :: trailing) := by
  have skipped : ∀ link ∈ links.reverse, (!link.picksFrom ["sheets", "worksheets"]) = true := by
    intro link member
    simp [Link.picksFrom, plain link (List.mem_reverse.1 member)]
  have picked : ({ name, arguments := some [key] } : Link).picksFrom ["sheets", "worksheets"] =
      true := by
    simp only [Link.picksFrom, Bool.and_true]
    exact Link.isNamed_of_isAmong named
  have forward : (trailing.reverse ++ { name, arguments := some [key] } :: links).reverse =
      links.reverse ++ { name, arguments := some [key] } :: trailing := by
    simp
  simp only [cellArguments?, isChain, Bool.not_true, Bool.false_eq_true, if_false, links?, isLinks,
    Option.map_some, forward]
  rw [List.dropWhile_append_of_pos skipped, List.dropWhile_cons_of_neg (by simp [picked])]

theorem ofLinks?_property {property : String} (sheets range : Link)
    (named : Text.IsAmong property ["value", "value2", "text"]) :
    CellArguments.ofLinks? [sheets, range, { name := property }] =
      CellArguments.ofLinks? [sheets, range] := by
  have isNamed : ({ name := property } : Link).isNamed ["value", "value2", "text"] = true :=
    Link.isNamed_of_isAmong named
  obtain ⟨name, arguments⟩ := sheets
  rcases arguments with _ | ⟨_ | ⟨key, _ | ⟨other, rest⟩⟩⟩
  · rfl
  · rfl
  · simp only [CellArguments.ofLinks?, isNamed, Option.isNone_none, Bool.and_self, Bool.not_true]
  · rfl

theorem reversedLinks?_of_isCell {expression : Expr} {arguments : CellArguments}
    (isCell : expression.IsCell arguments) :
    ∃ range name key links, expression.reversedLinks? =
        some (range :: { name, arguments := some [key] } :: links) ∧
      Text.IsAmong name ["sheets", "worksheets"] ∧ (∀ link ∈ links, link.arguments = none) ∧
      CellArguments.ofLinks? [{ name, arguments := some [key] }, range] = some arguments := by
  cases isCell with
  | @range sheets key reference range isSheets named =>
      obtain ⟨name, links, isLinks, isAmong, plain⟩ := reversedLinks?_of_isSheets isSheets
      exact ⟨{ name := range, arguments := some [reference] }, name, key, links,
        by simp only [reversedLinks?, isLinks, Option.map_some], isAmong, plain,
        by simp [CellArguments.ofLinks?, Link.isNamed, named]⟩
  | @cells sheets key row column range isSheets named =>
      obtain ⟨name, links, isLinks, isAmong, plain⟩ := reversedLinks?_of_isSheets isSheets
      exact ⟨{ name := range, arguments := some [row, column] }, name, key, links,
        by simp only [reversedLinks?, isLinks, Option.map_some], isAmong, plain,
        by simp [CellArguments.ofLinks?, Link.isNamed, named]⟩

/-- The arguments of a chain that reads a cell are found, whatever path it begins with and however
its names are spelled. -/
theorem cellArguments?_of_readsCell {expression : Expr} {arguments : CellArguments}
    (reads : expression.ReadsCell arguments) : expression.cellArguments? = some arguments := by
  cases reads with
  | plain isCell =>
      obtain ⟨range, name, key, links, isLinks, isSheets, plain, isRead⟩ :=
        reversedLinks?_of_isCell isCell
      have isChain : expression.isChain = true := by cases isCell <;> rfl
      have read := cellArguments?_of_links isChain isSheets plain [range] isLinks
      exact read.trans isRead
  | @property object property isCell named =>
      obtain ⟨range, name, key, links, isLinks, isSheets, plain, isRead⟩ :=
        reversedLinks?_of_isCell isCell
      have withProperty : (Expr.member object property).reversedLinks? =
          some ({ name := property } :: range :: { name, arguments := some [key] } :: links) := by
        rw [reversedLinks?, isLinks, Option.map_some]
      rw [cellArguments?_of_links rfl isSheets plain [range, { name := property }] withProperty,
        ofLinks?_property _ range named, isRead]

end Expr

/-! ## Reading -/

/-- The value names a sheet: it is not an integer, which would be the number of a sheet, and its text
is the name in some case. -/
def Value.NamesSheet (heap : Heap) (name : String) (key : Value) : Prop :=
  (∀ number, key ≠ .integer number) ∧ Text.sameIgnoringCase (heap.text key) name = true

/-- The arguments are literals that denote a cell of the sheet with a name. -/
inductive CellArguments.Denotes (heap : Heap) (name : String) (cell : Cell) : CellArguments → Prop
  | reference {key reference : Value} (isSheet : key.NamesSheet heap name)
      (refers : Cell.ofReference? (heap.text reference) = some cell) :
      Denotes heap name cell (.reference (.literal key) (.literal reference))
  | position {key row column : Value} (isSheet : key.NamesSheet heap name)
      (isRow : row.toInteger.toInt = cell.row) (isColumn : column.toInteger.toInt = cell.column) :
      Denotes heap name cell (.position (.literal key) (.literal row) (.literal column))

theorem gridNumber?_eq {value : Value} {number : Nat} (isNumber : value.toInteger.toInt = number)
    (small : number < UInt32.size) : gridNumber? value = some number := by
  have inRange : 0 ≤ (number : Int) ∧ (number : Int) < UInt32.size := by omega
  simp only [gridNumber?, isNumber, inRange, decide_true, Bool.and_self, if_true, Int.toNat_natCast]

theorem Workbook.read?_eq {workbook : Workbook} {heap : Heap} {key : Value} {name : String}
    {index : Nat} (isSheet : key.NamesSheet heap name)
    (found : workbook.sheetNamed? name = some index) (cell : Cell) :
    workbook.read? heap key cell = workbook.cell? index cell := by
  obtain ⟨notNumber, named⟩ := isSheet
  have isIndex := (sheetNamed?_congr named).trans found
  cases key with
  | integer number => exact absurd rfl (notNumber number)
  | _ => simp only [read?, isIndex, Option.bind_some]

namespace Engine

variable {engine : Engine} {environment : Environment} {state : State} {name : String}
  {cell : Cell} {arguments : CellArguments}

theorem locateCell_eq (answers : engine.AnswersLiterals)
    (passed : Eval.check environment state = .ok () state)
    (inGrid : cell.row < UInt32.size ∧ cell.column < UInt32.size)
    (denotes : arguments.Denotes state.heap name cell) :
    ∃ key : Value, key.NamesSheet state.heap name ∧
      engine.locateCell arguments environment state = .ok (key, some cell) state := by
  cases denotes with
  | @reference key reference isSheet refers =>
      refine ⟨key, isSheet, ?_⟩
      simp only [locateCell, Eval.text, Running.run_bind, answers _ _ _ passed, Running.run_get,
        Running.run_pure, refers]
  | @position key row column isSheet isRow isColumn =>
      refine ⟨key, isSheet, ?_⟩
      simp only [locateCell, Running.run_bind, answers _ _ _ passed, Running.run_pure,
        gridNumber?_eq isRow inGrid.1, gridNumber?_eq isColumn inGrid.2]

theorem readCell?_eq {workbook : Workbook} {expression : Expr} {index : Nat}
    (answers : engine.AnswersLiterals) (passed : Eval.check environment state = .ok () state)
    (inGrid : cell.row < UInt32.size ∧ cell.column < UInt32.size)
    (carried : environment.document = some workbook)
    (found : workbook.sheetNamed? name = some index)
    (reads : expression.ReadsCell arguments)
    (denotes : arguments.Denotes state.heap name cell) :
    engine.readCell? expression environment state = .ok (workbook.cell? index cell) state := by
  obtain ⟨key, isSheet, located⟩ := locateCell_eq answers passed inGrid denotes
  simp only [readCell?, Running.run_bind, Running.run_read, carried,
    Expr.cellArguments?_of_readsCell reads, located, Running.run_get, Running.run_pure,
    Workbook.read?_eq isSheet found]

end Engine

theorem Engine.operandValue_readsCell {environment : Environment} {state : State}
    {expression : Expr} {arguments : CellArguments} (engine : Engine)
    (passed : Eval.check environment state = .ok () state)
    (reads : expression.ReadsCell arguments) :
    engine.operandValue expression environment state =
      engine.documentOrNodeValue expression environment state := by
  simp only [operandValue, Running.run_bind, passed]
  cases reads with
  | plain isCell => cases isCell <;> rfl
  | property => rfl

theorem Eval.operand_readsCell {environment : Environment} {state : State} {workbook : Workbook}
    {expression : Expr} {arguments : CellArguments} {name : String} {index : Nat} {cell : Cell}
    {value : Value} (passed : Eval.check environment state = .ok () state)
    (inGrid : cell.row < UInt32.size ∧ cell.column < UInt32.size)
    (carried : environment.document = some workbook)
    (found : workbook.sheetNamed? name = some index) (held : workbook.cell? index cell = some value)
    (reads : expression.ReadsCell arguments) (denotes : arguments.Denotes state.heap name cell) :
    Eval.operand expression environment state = .ok value state := by
  have isRead := Engine.readCell?_eq Engine.answersLiterals_interpreter passed inGrid carried found
    reads denotes
  rw [operand, Engine.operandValue_readsCell _ passed reads, Engine.documentOrNodeValue,
    Running.run_bind, isRead, held]
  rfl

/-- A cell that was written is the cell that is read, by every chain of literals that denotes it in a
run within its limits, and no other cell changes. A reference denotes the cell that its letters and
digits name, and references with different letters name cells of different columns. -/
theorem Workbook.written_cell_is_read :
    (∀ (workbook after : Workbook) (sheet reference : String) (value : Value),
      workbook.setReference? sheet reference value = some after →
      ∃ index page cell, workbook.sheetNamed? sheet = some index ∧
        workbook.sheets[index]? = some page ∧ Cell.ofReference? reference = some cell ∧
        (∀ (environment : Environment) (state : State) expression arguments,
          environment.document = some after → state.run.limiter.Arises →
          state.run.limiter.expired = false → expression.ReadsCell arguments →
          arguments.Denotes state.heap page.name cell →
          Eval.operand expression environment state = .ok value state) ∧
        ∀ other otherCell, other ≠ index ∨ otherCell ≠ cell →
          after.cell? other otherCell = workbook.cell? other otherCell) ∧
    (∀ reference cell, Cell.ofReference? reference = some cell ↔
      ∃ letters digits, cell.IsNamedBy reference letters digits) ∧
    ∀ left right : List Char, (∀ letter ∈ left, letter.isAlpha = true) →
      (∀ letter ∈ right, letter.isAlpha = true) →
      (Cell.columnNumber left = Cell.columnNumber right ↔
        left.map Char.toUpper = right.map Char.toUpper) := by
  refine ⟨?_, fun _ _ => Cell.ofReference?_eq_some_iff, fun _ _ => Cell.columnNumber_eq_iff⟩
  intro workbook after sheet reference value written
  rw [setReference?] at written
  split at written
  · rename_i index cell found refers
    cases written
    obtain ⟨page, atIndex, named⟩ := exists_page_of_sheetNamed? found
    have inside : index < workbook.sheets.size := Array.getElem?_eq_some_iff.1 atIndex |>.1
    refine ⟨index, page, cell, found, atIndex, refers, ?_,
      fun _ _ different => cell?_setCell_of_ne different value⟩
    intro environment state expression arguments carried limited awake reads denotes
    -- Writing a cell renames no sheet, so the name finds the same sheet afterwards.
    have foundAfter : (workbook.setCell index cell value).sheetNamed? page.name = some index := by
      rw [sheetNamed?_setCell, sheetNamed?_congr named, found]
    exact Eval.operand_readsCell (Eval.check_eq ⟨limited.depth_le, awake⟩)
      (Cell.bounds_of_ofReference? refers) carried foundAfter (cell?_setCell_self inside value)
      reads denotes
  · cases written

private def secondCell : Expr :=
  .member
    (.call (.member (.call (.member (.var "ThisWorkbook") "WORKSHEETS") [.literal (.text "sheet1")])
      "Cells") [.literal (.integer 2), .literal (.text "2")])
    "Value2"

/-- What is written to `$B$2` is read from the second cell of the second row. -/
theorem Workbook.written_cell_is_read_by_position :
    ∃ after, withFirstSheet.setReference? "SHEET1" "$B$2" (.integer 41) = some after ∧
      Eval.operand secondCell { document := some after }
          (State.start { document := some after } none {} {}) =
        .ok (.integer 41) (State.start { document := some after } none {} {}) := by
  have isNamed : withFirstSheet.sheetNamed? "SHEET1" = some 0 := by decide +kernel
  have refers : Cell.ofReference? "$B$2" = some { row := 2, column := 2 } := by decide +kernel
  have written : withFirstSheet.setReference? "SHEET1" "$B$2" (.integer 41) =
      some (withFirstSheet.setCell 0 { row := 2, column := 2 } (.integer 41)) := by
    rw [setReference?, isNamed, refers]
  obtain ⟨index, page, cell, found, atIndex, refersHere, reads, -⟩ :=
    written_cell_is_read.1 _ _ _ _ _ written
  cases isNamed.symm.trans found
  cases refers.symm.trans refersHere
  cases atIndex
  have isChain : secondCell.ReadsCell (.position (.literal (.text "sheet1")) (.literal (.integer 2))
      (.literal (.text "2"))) :=
    .property (.cells (.member rfl ⟨"worksheets", by decide, by decide +kernel⟩) (by decide +kernel))
      ⟨"value2", by decide, by decide +kernel⟩
  exact ⟨_, written, reads _ _ secondCell _ rfl (.new _ _) rfl isChain
    (.position ⟨nofun, by decide +kernel⟩ rfl (by decide +kernel))⟩

end MacroSandbox
