import MacroSandbox.Evaluation.Operand
import MacroSandbox.Proofs.DigitTexts
import MacroSandbox.Proofs.OperatorTexts
import Std.Data.String.ToInt

/-! What the text of an expression of numbers and operators shows: how the expression is made, and the
texts of its numbers. -/

namespace MacroSandbox

namespace OperatorTree

/-! ## Numbers -/

inductive IsNumber : List Char → Prop
  | unsigned {digits : List Char} (isAtom : IsAtom digits) : IsNumber digits
  | signed {digits : List Char} (isAtom : IsAtom digits) : IsNumber ('-' :: digits)

/-- The tree of the text of a number. A sign is a negation. -/
def ofNumber : List Char → OperatorTree
  | '-' :: digits => .negation (.atom digits)
  | digits => .atom digits

@[simp] theorem text_ofNumber (number : List Char) : (ofNumber number).text = number := by
  unfold ofNumber
  split <;> rfl

@[simp] theorem isOperation_ofNumber (number : List Char) :
    (ofNumber number).isOperation = false := by
  unfold ofNumber
  split <;> rfl

theorem ofNumber_eq_atom {digits : List Char} (isAtom : IsAtom digits) :
    ofNumber digits = .atom digits := by
  unfold ofNumber
  split
  · exact absurd rfl isAtom.unsigned
  · rfl

theorem isWellFormed_ofNumber {number : List Char} (isNumber : IsNumber number) :
    (ofNumber number).IsWellFormed := by
  cases isNumber with
  | signed isAtom => exact isAtom
  | unsigned isAtom =>
      rw [ofNumber_eq_atom isAtom]
      exact isAtom

theorem IsAtom.of_digits {digits : List Char} (notEmpty : digits ≠ [])
    (all : ∀ character ∈ digits, character.isDigit = true ∨ character = '.') : IsAtom digits := by
  have differs {mark : Char} (noDigit : mark.isDigit = false) (noPoint : mark ≠ '.') :
      mark ∉ digits := by
    intro member
    rcases all mark member with isDigit | isPoint
    · rw [noDigit] at isDigit
      cases isDigit
    · exact noPoint isPoint
  refine ⟨notEmpty, fun starts => ?_, fun character member => ?_⟩
  · exact differs (by decide) (by decide) (List.mem_of_mem_head? starts)
  · simp only [isAtomic, Bool.and_eq_true, bne_iff_ne]
    refine ⟨⟨?_, ?_⟩, ?_⟩ <;>
      · rintro rfl
        exact differs (by decide) (by decide) member

end OperatorTree

open OperatorTree

theorem Nat.isAtom_toDigits (number : Nat) : IsAtom (Nat.toDigits 10 number) :=
  .of_digits Nat.toDigits_ne_nil fun _ member =>
    .inl (Nat.isDigit_of_mem_toDigits (by decide) (by decide) member)

theorem Int.isNumber_toString (number : Int) : IsNumber (toString number).toList := by
  rcases Int.lt_or_le number 0 with negative | positive
  · rw [toString_eq_of_neg negative, String.toList_ofList]
    exact .signed (Nat.isAtom_toDigits _)
  · rw [toString_eq_of_nonneg positive, String.toList_ofList]
    exact .unsigned (Nat.isAtom_toDigits _)

theorem Shortest.isDigit_of_mem_decimal {significand : Nat} {exponent : Int} {character : Char}
    (member : character ∈ (Shortest.decimal significand exponent).digits.toList) :
    character.isDigit = true := by
  simp only [Shortest.decimal, Shortest.dropZeros, String.toList_ofList, List.mem_reverse] at member
  have kept := List.mem_reverse.1 ((List.dropWhile_sublist _).subset member)
  rw [show (toString _ : String).toList = Nat.toDigits 10 _ from String.toList_ofList] at kept
  exact Nat.isDigit_of_mem_toDigits (by decide) (by decide) kept

theorem Shortest.Decimal.isAtom_positional {decimal : Shortest.Decimal}
    (digits : ∀ character ∈ decimal.digits.toList, character.isDigit = true) :
    IsAtom decimal.positional.toList := by
  have zeros (count : Nat) : ∀ character ∈ List.replicate count '0', character.isDigit = true := by
    intro character member
    rw [List.eq_of_mem_replicate member]
    decide
  unfold Shortest.Decimal.positional
  dsimp only
  -- The point stands before the digits, not at all, or among them.
  split
  · apply IsAtom.of_digits
    · simp
    · intro character member
      simp only [String.toList_append, String.toList_ofList, List.mem_append] at member
      rcases member with (start | zero) | digit
      · have leading : character = '0' ∨ character = '.' := by simpa using start
        rcases leading with rfl | rfl
        · exact .inl rfl
        · exact .inr rfl
      · exact .inl (zeros _ character zero)
      · exact .inl (digits character digit)
  · split
    · apply IsAtom.of_digits
      · rename_i positive enough
        intro empty
        simp only [String.toList_append, String.toList_ofList, List.append_eq_nil_iff,
          List.replicate_eq_nil_iff] at empty
        have noDigits : decimal.digits.length = 0 := by
          rw [← String.length_toList, empty.1]
          rfl
        omega
      · intro character member
        simp only [String.toList_append, String.toList_ofList, List.mem_append] at member
        rcases member with digit | zero
        · exact .inl (digits character digit)
        · exact .inl (zeros _ character zero)
    · apply IsAtom.of_digits
      · simp
      · intro character member
        simp only [String.toList_append, String.toList_ofList, List.mem_append] at member
        rcases member with (before | point) | behind
        · exact .inl (digits character (List.mem_of_mem_take before))
        · exact .inr (by simpa using point)
        · exact .inl (digits character (List.mem_of_mem_drop behind))

theorem Binary64.isNumber_plain (number : Binary64) : IsNumber number.plain.toList := by
  have withSign {digits : String} (negative : Bool) (isAtom : IsAtom digits.toList) :
      IsNumber (signText negative ++ digits).toList := by
    cases negative with
    | false => simpa [signText] using IsNumber.unsigned isAtom
    | true => simpa [signText] using IsNumber.signed isAtom
  have zero : IsAtom "0".toList := .of_digits (by decide) (by simp)
  have infinite : IsAtom "inf".toList := ⟨by decide, by decide, by simp [isAtomic]⟩
  unfold plain
  split
  · exact .unsigned ⟨by decide, by decide, by simp [isAtomic]⟩
  · exact withSign _ infinite
  · exact withSign _ zero
  · exact withSign _ (Shortest.Decimal.isAtom_positional fun _ => Shortest.isDigit_of_mem_decimal)

namespace Value

def numberText (number : Value) : List Char :=
  (({} : Heap).literal number).toList

variable {number : Value}

theorem isNumber_numberText (isNumeric : number.isNumeric = true) : IsNumber number.numberText := by
  cases number with
  | integer value => exact Int.isNumber_toString value.toInt
  | float value => exact Binary64.isNumber_plain _
  | _ => cases isNumeric

theorem eq_of_numberText_eq {left right : Int64}
    (same : (integer left).numberText = (integer right).numberText) : left = right := by
  have sameText : (toString left.toInt).toList = (toString right.toInt).toList := same
  rw [String.toList_inj] at sameText
  exact Int64.toInt_inj.1 (Int.repr_inj.1 sameText)

theorem toList_literal (isNumeric : number.isNumeric = true) (heap : Heap) :
    (heap.literal number).toList = number.numberText := by
  cases number with
  | integer value => rfl
  | float value => rfl
  | _ => cases isNumeric

end Value

/-! ## Formulas -/

namespace Expr

def tree : Expr → OperatorTree
  | .literal number => .ofNumber number.numberText
  | .unary _ operand => .negation operand.tree
  | .binary operator left right => .operation operator left.tree right.tree
  | _ => .atom []

def numbers : Expr → List Value
  | .literal number => [number]
  | .unary _ operand => operand.numbers
  | .binary _ left right => left.numbers ++ right.numbers
  | _ => []

inductive IsFormula (numbers : Value → Prop) : Expr → Prop
  | number {number : Value} (inside : numbers number) : IsFormula numbers (.literal number)
  | negation {operand : Expr} (inside : IsFormula numbers operand) :
      IsFormula numbers (.unary .negate operand)
  | operation (operator : BinaryOperator) {left right : Expr} (inLeft : IsFormula numbers left)
      (inRight : IsFormula numbers right) : IsFormula numbers (.binary operator left right)

variable {expression : Expr} {numbers : Value → Prop}

theorem IsFormula.imp {wider : Value → Prop} (isFormula : expression.IsFormula numbers)
    (implies : ∀ number, numbers number → wider number) : expression.IsFormula wider := by
  induction isFormula with
  | number inside => exact .number (implies _ inside)
  | negation _ induction => exact .negation induction
  | operation operator _ _ inLeft inRight => exact .operation operator inLeft inRight

theorem isOperation_tree (isFormula : expression.IsFormula numbers) :
    expression.tree.isOperation = expression.isBinary := by
  cases isFormula with
  | number => exact isOperation_ofNumber _
  | negation | operation => rfl

theorem isWrapped_tree (isFormula : expression.IsFormula numbers) (parent : BinaryOperator)
    (onRight : Bool) :
    expression.tree.isWrapped parent onRight = expression.needsParentheses parent onRight := by
  cases isFormula with
  | @number number =>
      have noOperation := isOperation_ofNumber number.numberText
      show (ofNumber number.numberText).isWrapped parent onRight = false
      cases tree : ofNumber number.numberText with
      | operation => rw [tree] at noOperation; cases noOperation
      | atom | negation => rfl
  | negation | operation => rfl

theorem toList_parenthesize (needed : Bool) (text : String) :
    (parenthesize needed text).toList = OperatorTree.wrap needed text.toList := by
  cases needed with
  | false => rfl
  | true => simp [parenthesize, OperatorTree.wrap]

theorem text_tree (heap : Heap) (isFormula : expression.IsFormula fun number => number.isNumeric) :
    expression.tree.text = (expression.render heap).toList := by
  induction isFormula with
  | number isNumeric => rw [tree, text_ofNumber, render, Value.toList_literal isNumeric]
  | negation inside induction =>
      rw [tree, render, OperatorTree.text, induction, isOperation_tree inside,
        String.toList_append, toList_parenthesize]
      rfl
  | operation operator inLeft inRight fromLeft fromRight =>
      rw [tree, render, OperatorTree.text, fromLeft, fromRight, isWrapped_tree inLeft,
        isWrapped_tree inRight]
      simp [String.toList_append, toList_parenthesize]

theorem isWellFormed_tree (isFormula : expression.IsFormula fun number => number.isNumeric) :
    expression.tree.IsWellFormed := by
  induction isFormula with
  | number isNumeric => exact isWellFormed_ofNumber (Value.isNumber_numberText isNumeric)
  | negation _ induction => exact induction
  | operation _ _ _ inLeft inRight => exact ⟨inLeft, inRight⟩

/-- Formulas with the same text are made in the same way, down to the texts of their numbers. -/
theorem tree_eq_of_render_eq {left right : Expr} {heap other : Heap}
    (isFormula : left.IsFormula fun number => number.isNumeric)
    (otherIsFormula : right.IsFormula fun number => number.isNumeric)
    (same : left.render heap = right.render other) : left.tree = right.tree := by
  apply OperatorTree.eq_of_text_eq (isWellFormed_tree isFormula) (isWellFormed_tree otherIsFormula)
  rw [text_tree heap isFormula, text_tree other otherIsFormula, same]

/-! ## Constant expressions -/

theorem isNumeric_of_isNumeral {number : Value} (isNumeral : (literal number).isNumeral = true) :
    number.isNumeric = true := by
  cases number with
  | integer | float => rfl
  | _ => cases isNumeral

theorem isNumeral_operands {operator : BinaryOperator} {left right : Expr}
    (isNumeral : (binary operator left right).isNumeral = true) :
    left.isNumeral = true ∧ right.isNumeral = true := by
  simp only [Expr.isNumeral, Bool.and_eq_true] at isNumeral
  exact ⟨isNumeral.1.2, isNumeral.2⟩

@[elab_as_elim]
theorem induction_of_isNumeral {motive : (expression : Expr) → expression.isNumeral = true → Prop}
    (number : ∀ number isNumeral, motive (.literal number) isNumeral)
    (negation : ∀ operand (isNumeral : operand.isNumeral = true), motive operand isNumeral →
      motive (.unary .negate operand) isNumeral)
    (operation : ∀ operator left right (isNumeral : (binary operator left right).isNumeral = true),
      motive left (isNumeral_operands isNumeral).1 → motive right (isNumeral_operands isNumeral).2 →
        motive (.binary operator left right) isNumeral) :
    ∀ (expression : Expr) (isNumeral : expression.isNumeral = true), motive expression isNumeral
  | .literal value, isNumeral => number value isNumeral
  | .unary .negate operand, isNumeral =>
      negation operand isNumeral
        (induction_of_isNumeral number negation operation operand isNumeral)
  | .binary operator left right, isNumeral =>
      operation operator left right isNumeral
        (induction_of_isNumeral number negation operation left _)
        (induction_of_isNumeral number negation operation right _)

theorem isFormula_of_isNumeral (isNumeral : expression.isNumeral = true) :
    expression.IsFormula fun number => number.isNumeric := by
  induction expression, isNumeral using induction_of_isNumeral with
  | number value isNumeral => exact .number (isNumeric_of_isNumeral isNumeral)
  | negation operand isNumeral induction => exact .negation induction
  | operation operator left right isNumeral inLeft inRight => exact .operation operator inLeft inRight

theorem render_of_isNumeral (isNumeral : expression.isNumeral = true) (heap : Heap) :
    expression.render heap = expression.render {} := by
  have isFormula := isFormula_of_isNumeral isNumeral
  rw [← String.toList_inj, ← text_tree heap isFormula, text_tree {} isFormula]

end Expr

end MacroSandbox
