import MacroSandbox.Proofs.NumeralTexts

/-! Formulas of natural numbers are determined by their texts.

With negative numbers they are not: a number with a sign in front reads like the negation of a number.
-/

namespace MacroSandbox

inductive Value.IsNatural : Value → Prop
  | integer {number : Int64} (notNegative : 0 ≤ number.toInt) : IsNatural (.integer number)

namespace Value

variable {number : Value}

theorem IsNatural.isNumeric (isNatural : number.IsNatural) : number.isNumeric = true := by
  cases isNatural
  rfl

theorem IsNatural.isAtom_numberText (isNatural : number.IsNatural) :
    OperatorTree.IsAtom number.numberText := by
  cases isNatural with
  | @integer number notNegative =>
      rw [show (Value.integer number).numberText = (toString number.toInt).toList from rfl,
        Int.toString_eq_of_nonneg notNegative, String.toList_ofList]
      exact Nat.isAtom_toDigits _

end Value

namespace Expr

variable {left right : Expr}

/-- Formulas of natural numbers that are made in the same way, down to the texts of their numbers, are
the same. -/
theorem eq_of_tree_eq (isFormula : left.IsFormula Value.IsNatural)
    (otherIsFormula : right.IsFormula Value.IsNatural) (same : left.tree = right.tree) :
    left = right := by
  have atom {number : Value} (isNatural : number.IsNatural) :
      (literal number).tree = .atom number.numberText :=
    OperatorTree.ofNumber_eq_atom isNatural.isAtom_numberText
  induction isFormula generalizing right with
  | number isNatural =>
      rw [atom isNatural] at same
      cases otherIsFormula with
      | number otherIsNatural =>
          rw [atom otherIsNatural] at same
          cases isNatural
          cases otherIsNatural
          rw [Value.eq_of_numberText_eq (OperatorTree.atom.inj same)]
      | negation | operation => cases same
  | negation _ induction =>
      cases otherIsFormula with
      | number otherIsNatural =>
          rw [atom otherIsNatural] at same
          cases same
      | negation otherInside => rw [induction otherInside (OperatorTree.negation.inj same)]
      | operation => cases same
  | operation operator _ _ fromLeft fromRight =>
      cases otherIsFormula with
      | number otherIsNatural =>
          rw [atom otherIsNatural] at same
          cases same
      | negation => cases same
      | operation otherOperator otherLeft otherRight =>
          obtain ⟨rfl, sameLeft, sameRight⟩ := OperatorTree.operation.inj same
          rw [fromLeft otherLeft sameLeft, fromRight otherRight sameRight]

/-- The text of a formula of natural numbers is unambiguous: no other formula of natural numbers has
it. Which lists and maps there are makes no difference. -/
theorem render_eq_render_iff (heap other : Heap) (isFormula : left.IsFormula Value.IsNatural)
    (otherIsFormula : right.IsFormula Value.IsNatural) :
    left.render heap = right.render other ↔ left = right := by
  have numeric {expression : Expr} (isFormula : expression.IsFormula Value.IsNatural) :
      expression.IsFormula fun number => number.isNumeric :=
    isFormula.imp fun _ => Value.IsNatural.isNumeric
  constructor
  · intro same
    exact eq_of_tree_eq isFormula otherIsFormula
      (tree_eq_of_render_eq (numeric isFormula) (numeric otherIsFormula) same)
  · rintro rfl
    rw [← String.toList_inj, ← text_tree heap (numeric isFormula),
      ← text_tree other (numeric isFormula)]

/-- A sum that is negated and a negation that is added to differ, so their texts do. -/
theorem render_negated_sum_ne :
    let one : Expr := .literal (.integer 1)
    let two : Expr := .literal (.integer 2)
    let negatedSum : Expr := .unary .negate (.binary .add one two)
    let sum : Expr := .binary .add (.unary .negate one) two
    negatedSum.IsFormula Value.IsNatural ∧ sum.IsFormula Value.IsNatural ∧
      negatedSum.render {} ≠ sum.render {} := by
  intro one two negatedSum sum
  have first : one.IsFormula Value.IsNatural := .number (.integer (by decide))
  have second : two.IsFormula Value.IsNatural := .number (.integer (by decide))
  have isFormula : negatedSum.IsFormula Value.IsNatural := .negation (.operation .add first second)
  have otherIsFormula : sum.IsFormula Value.IsNatural := .operation .add (.negation first) second
  refine ⟨isFormula, otherIsFormula, fun same => ?_⟩
  have equal := (render_eq_render_iff {} {} isFormula otherIsFormula).1 same
  simp [negatedSum, sum] at equal

/-- A negative number reads like the negation of a number. -/
example : (literal (.integer (-1))).render {} = (unary .negate (.literal (.integer 1))).render {} := by
  decide +kernel

end Expr

end MacroSandbox
