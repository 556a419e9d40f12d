import MacroSandbox.Library.Pure
import MacroSandbox.Operators

/-! Arithmetic on integers.

A sum, a difference and a product is the exact number as long as that has 64 bits, and else a
floating-point number. Division, negation and the magnitude have no such way out: their results are
exact unless they leave the 64 bits, which happens to the least integer only. -/

namespace MacroSandbox

/-! ## Exact numbers -/

/-- A value stands for a whole number: it is that integer, or a floating-point number if there is no
such 64-bit integer. -/
def Value.StandsFor (value : Value) (number : Int) : Prop :=
  match value with
  | .integer held => held.toInt = number
  | .float _ => ∀ held : Int64, held.toInt ≠ number
  | _ => False

def IsExact (outcome : Except Fault Value) (number : Int) : Prop :=
  ∃ value, outcome = .ok value ∧ value.StandsFor number

/-- A division of integers fails with the error for the divisor zero, and only for it, and else its
value stands for the exact number. -/
def IsExactDivision (exact : Int → Int → Int) (left right : Int64)
    (outcome : Except Fault Value) : Prop :=
  match outcome with
  | .error fault => right = 0 ∧ fault.number = 11
  | .ok value => right ≠ 0 ∧ value.StandsFor (exact left.toInt right.toInt)

@[simp] theorem Value.standsFor_integer {held : Int64} {number : Int} :
    (Value.integer held).StandsFor number ↔ held.toInt = number := .rfl

theorem fitsInteger_iff {number : Int} :
    fitsInteger number = true ↔ ∃ held : Int64, held.toInt = number := by
  constructor
  · intro fits
    have inRange : Int64.minValue.toInt ≤ number ∧ number ≤ Int64.maxValue.toInt := by
      simpa [fitsInteger] using fits
    refine ⟨Int64.ofInt number, Int64.toInt_ofInt_of_le inRange.1 ?_⟩
    exact Int.lt_of_le_of_lt inRange.2 (by decide)
  · rintro ⟨held, rfl⟩
    rw [fitsInteger, Bool.and_eq_true, decide_eq_true_iff, decide_eq_true_iff]
    exact ⟨held.minValue_le_toInt, held.toInt_le⟩

/-! ## Sums, differences and products -/

theorem arithmetic_standsFor (onIntegers : Int → Int → Int) (onFloats : Float → Float → Float)
    (left right : Int64) :
    (arithmetic onIntegers onFloats (.integer left) (.integer right)).StandsFor
      (onIntegers left.toInt right.toInt) := by
  simp only [arithmetic, Value.toNumber]
  split
  · rename_i fits
    obtain ⟨held, same⟩ := fitsInteger_iff.1 fits
    rw [← same, Int64.ofInt_toInt, Value.standsFor_integer]
  · rename_i tooLarge
    intro held same
    exact tooLarge (fitsInteger_iff.2 ⟨held, same⟩)

/-! ## Quotients and remainders -/

theorem wholeDivision_integers (compute : Int64 → Int64 → Int64) (left right : Int64) :
    wholeDivision compute (.integer left) (.integer right) =
      if right = 0 then .error .divisionByZero else .ok (.integer (compute left right)) := by
  simp [wholeDivision, roundedOperand, Value.toNumber, Value.toInteger]

theorem isExactDivision_iff {exact : Int → Int → Int} {compute : Int64 → Int64 → Int64}
    {left right : Int64} :
    IsExactDivision exact left right (wholeDivision compute (.integer left) (.integer right)) ↔
      right = 0 ∨ (compute left right).toInt = exact left.toInt right.toInt := by
  rw [wholeDivision_integers]
  by_cases zero : right = 0
  · simp [IsExactDivision, zero, Fault.divisionByZero, Fault.number]
  · simp [IsExactDivision, zero]

/-- The quotient of the least integer by minus one is one more than the greatest integer. -/
theorem toInt_div_eq_iff {left right : Int64} :
    (left / right).toInt = left.toInt.tdiv right.toInt ↔
      ¬ (left = Int64.minValue ∧ right = -1) := by
  constructor
  · rintro exact ⟨rfl, rfl⟩
    exact absurd exact (by decide)
  · intro inRange
    by_cases least : left = Int64.minValue
    · exact Int64.toInt_div_of_ne_right left right fun minusOne => inRange ⟨least, minusOne⟩
    · exact Int64.toInt_div_of_ne_left left right least

/-! ## Negation and magnitude -/

theorem toInt_neg_eq_iff {number : Int64} :
    (-number).toInt = -number.toInt ↔ number ≠ Int64.minValue := by
  constructor
  · rintro exact rfl
    exact absurd exact (by decide)
  · intro notLeast
    have := number.le_toInt
    have := number.toInt_lt
    have : number.toInt ≠ Int64.minValue.toInt := fun same => notLeast (Int64.toInt_inj.1 same)
    have : Int64.minValue.toInt = -2 ^ 63 := Int64.toInt_minValue
    rw [Int64.toInt_neg]
    exact Int.bmod_eq_of_le (by omega) (by omega)

/-- Negation takes the number from zero, except for the least integer, which is its own negation. -/
theorem negate_eq_subtract_iff {heap : Heap} {number : Int64} :
    BinaryOperator.subtract.apply heap (.integer 0) (.integer number) =
        .ok (UnaryOperator.negate.apply (.integer number)) ↔
      number ≠ Int64.minValue := by
  have exact := arithmetic_standsFor (· - ·) (· - ·) 0 number
  have negated : UnaryOperator.negate.apply (.integer number) = .integer (-number) := rfl
  rw [negated, ← toInt_neg_eq_iff]
  simp only [BinaryOperator.apply, Except.ok.injEq]
  generalize arithmetic (· - ·) (· - ·) (.integer 0) (.integer number) = difference at exact
  simp only [Int64.toInt_zero, Int.zero_sub] at exact
  cases difference with
  | integer held =>
      rw [Value.standsFor_integer] at exact
      rw [Value.integer.injEq, ← exact, ← Int64.toInt_inj, eq_comm]
  | float _ => exact ⟨nofun, fun same => absurd same (exact (-number))⟩
  | _ => cases exact

theorem magnitude_standsFor_iff {number : Int64} :
    (ScalarRoutine.magnitude (.integer number)).StandsFor number.toInt.natAbs ↔
      number ≠ Int64.minValue := by
  have magnitude : ScalarRoutine.magnitude (.integer number) =
      .integer (if number < 0 then -number else number) := rfl
  rw [magnitude, Value.standsFor_integer, ← toInt_neg_eq_iff]
  split
  · rename_i negative
    have : number.toInt < 0 := Int64.lt_iff_toInt_lt.1 negative
    rw [Int.ofNat_natAbs_of_nonpos (by omega)]
  · rename_i notNegative
    have nonnegative : 0 ≤ number.toInt := by
      have : ¬ number.toInt < 0 := fun below => notNegative (Int64.lt_iff_toInt_lt.2 below)
      omega
    have notLeast : number ≠ Int64.minValue := by
      rintro rfl
      exact absurd nonnegative (by decide)
    simp [Int.natAbs_of_nonneg nonnegative, toInt_neg_eq_iff.2 notLeast]

/-! ## All operations -/

/-- Sums, differences, products and remainders of integers are exact. So are quotients, unless the
least integer is divided by minus one, and negations and magnitudes, unless they are those of the least
integer. -/
theorem integers_exact_unless_least (heap : Heap) (left right : Int64) :
    IsExact (BinaryOperator.add.apply heap (.integer left) (.integer right))
      (left.toInt + right.toInt) ∧
    IsExact (BinaryOperator.subtract.apply heap (.integer left) (.integer right))
      (left.toInt - right.toInt) ∧
    IsExact (BinaryOperator.multiply.apply heap (.integer left) (.integer right))
      (left.toInt * right.toInt) ∧
    IsExactDivision Int.tmod left right
      (BinaryOperator.modulo.apply heap (.integer left) (.integer right)) ∧
    (IsExactDivision Int.tdiv left right
        (BinaryOperator.integerDivide.apply heap (.integer left) (.integer right)) ↔
      ¬ (left = Int64.minValue ∧ right = -1)) ∧
    (BinaryOperator.subtract.apply heap (.integer 0) (.integer left) =
        .ok (UnaryOperator.negate.apply (.integer left)) ↔ left ≠ Int64.minValue) ∧
    (IsExact (ScalarRoutine.absolute.compute heap [.integer left]) left.toInt.natAbs ↔
      left ≠ Int64.minValue) := by
  refine ⟨⟨_, rfl, ?_⟩, ⟨_, rfl, ?_⟩, ⟨_, rfl, ?_⟩, ?_, ?_, negate_eq_subtract_iff, ?_⟩
  · exact arithmetic_standsFor (· + ·) (· + ·) left right
  · exact arithmetic_standsFor (· - ·) (· - ·) left right
  · exact arithmetic_standsFor (· * ·) (· * ·) left right
  · exact isExactDivision_iff.2 (.inr (Int64.toInt_mod left right))
  · rw [← toInt_div_eq_iff]
    refine isExactDivision_iff.trans ⟨?_, .inr⟩
    rintro (rfl | exact)
    · simp
    · exact exact
  · rw [← magnitude_standsFor_iff]
    constructor
    · rintro ⟨value, same, stands⟩
      cases same
      exact stands
    · exact fun stands => ⟨_, rfl, stands⟩

/-- The least integer is what it gives divided by minus one, and what it gives negated, and its
magnitude is negative. -/
theorem least_integer_wraps :
    BinaryOperator.integerDivide.apply {} (.integer Int64.minValue) (.integer (-1)) =
        .ok (.integer Int64.minValue) ∧
      ¬ IsExactDivision Int.tdiv Int64.minValue (-1)
        (BinaryOperator.integerDivide.apply {} (.integer Int64.minValue) (.integer (-1))) ∧
      BinaryOperator.subtract.apply {} (.integer 0) (.integer Int64.minValue) ≠
        .ok (UnaryOperator.negate.apply (.integer Int64.minValue)) ∧
      ¬ IsExact (ScalarRoutine.absolute.compute {} [.integer Int64.minValue])
        Int64.minValue.toInt.natAbs := by
  refine ⟨rfl, ?_, ?_, ?_⟩
  · intro exact
    rcases isExactDivision_iff.1 exact with zero | exact
    · exact absurd zero (by decide)
    · exact toInt_div_eq_iff.1 exact ⟨rfl, rfl⟩
  · exact fun same => negate_eq_subtract_iff.1 same rfl
  · rintro ⟨value, same, stands⟩
    cases same
    exact magnitude_standsFor_iff.1 stands rfl

end MacroSandbox
