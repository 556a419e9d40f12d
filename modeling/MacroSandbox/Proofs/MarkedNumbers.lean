import MacroSandbox.Proofs.DecimalTexts
import MacroSandbox.Proofs.NumeralTexts
import MacroSandbox.Number.FloatText

/-! The texts of floating-point numbers in loop programs, which are not the texts of integers. -/

namespace MacroSandbox

/-! ## Digits -/

namespace Shortest

namespace Interval

variable {interval : Interval}

/-- Zero is not in an interval of positive numbers, so no decimal in it is zero. -/
theorem pos_of_atLength? (positive : 0 < interval.low) {count digits : Nat}
    (found : interval.atLength? count = some digits) : 0 < digits := by
  have ofInside {below : Nat} {divisor : Nat} (scale : Nat) (positiveDivisor : 0 < divisor)
      (inside : interval.holds (below * scale) divisor = true) : 0 < below := by
    have lower : interval.low * divisor ≤ below * scale * interval.denominator := by
      unfold holds at inside
      dsimp only at inside
      split at inside <;> simp only [Bool.and_eq_true, decide_eq_true_eq] at inside
      · exact inside.1
      · exact Nat.le_of_lt inside.1
    have : 0 < interval.low * divisor := Nat.mul_pos positive positiveDivisor
    apply Nat.pos_of_ne_zero
    rintro rfl
    rw [Nat.zero_mul, Nat.zero_mul] at lower
    omega
  have divisorPositive : 0 < Nat.pow 10 (-(interval.point - count)).toNat :=
    Nat.pow_pos (by decide)
  unfold atLength? at found
  dsimp only at found
  split at found
  · rename_i inside _
    rw [← Option.some.inj found]
    split
    · exact Nat.succ_pos _
    · exact ofInside _ divisorPositive inside
  · rename_i inside _
    rw [← Option.some.inj found]
    exact ofInside _ divisorPositive inside
  · rw [← Option.some.inj found]
    exact Nat.succ_pos _
  · cases found

theorem pos_of_shortestFrom (positive : 0 < interval.low) :
    ∀ lengths count : Nat, 0 < (interval.shortestFrom lengths count).2
  | 0, count => Nat.one_pos
  | lengths + 1, count => by
      rw [shortestFrom]
      split
      · rename_i digits found
        exact pos_of_atLength? positive found
      · exact pos_of_shortestFrom positive lengths (count + 1)

theorem low_around_pos {significand : Nat} (positive : 0 < significand) (exponent : Int) :
    0 < (around significand exponent).low := by
  unfold around
  dsimp only
  refine Nat.mul_pos ?_ (Nat.pow_pos (by decide))
  split <;> omega

end Interval

theorem exists_mem_toDigits_ne {number : Nat} (positive : 0 < number) :
    ∃ digit ∈ Nat.toDigits 10 number, digit ≠ '0' := by
  induction number using Nat.strongRecOn with
  | ind number induction =>
      rcases Nat.lt_or_ge number 10 with small | large
      · rw [Nat.toDigits_of_lt_base small]
        exact ⟨_, List.mem_singleton_self _,
          (by decide : ∀ value < 10, 0 < value → Nat.digitChar value ≠ '0') number small positive⟩
      · rw [Nat.toDigits_of_base_le (by decide) large]
        rcases induction (number / 10) (Nat.div_lt_self positive (by decide))
          (Nat.div_pos large (by decide)) with ⟨digit, member, differs⟩
        exact ⟨digit, List.mem_append_left _ member, differs⟩

theorem exists_digits_decimal {significand : Nat} (positive : 0 < significand) (exponent : Int) :
    ∃ digit rest, (decimal significand exponent).digits.toList = digit :: rest := by
  have digitsPositive := Interval.pos_of_shortestFrom
    (Interval.low_around_pos positive exponent) 17 1
  rcases exists_mem_toDigits_ne digitsPositive with ⟨digit, member, differs⟩
  apply List.exists_cons_of_ne_nil
  intro empty
  simp only [decimal, dropZeros, String.toList_ofList, List.reverse_eq_nil_iff,
    List.dropWhile_eq_nil_iff, List.mem_reverse, beq_iff_eq] at empty
  refine differs (empty digit ?_)
  rwa [show (toString _ : String).toList = Nat.toDigits 10 _ from String.toList_ofList]

end Shortest

/-! ## Texts with a fraction or an exponent -/

/-- The text of a number that is no integer: after a sign come digits and then a point or an exponent,
or it is one of three words. -/
inductive IsFraction : List Char → Prop
  | special {text : List Char}
      (listed : text ∈ [['N', 'a', 'N'], ['i', 'n', 'f'], ['-', 'i', 'n', 'f']]) :
      IsFraction text
  | number {sign digits after : List Char} {digit mark : Char} (isSign : sign = [] ∨ sign = ['-'])
      (isDigit : digit.isDigit = true) (areDigits : ∀ other ∈ digits, other.isDigit = true)
      (isMark : mark = '.' ∨ mark = 'e')
      (unmarked : ∀ other ∈ after, other.isDigit = true ∨ other ∈ ['.', 'e', '-']) :
      IsFraction (sign ++ digit :: (digits ++ mark :: after))

namespace Shortest.Decimal

variable {decimal : Decimal}

def IsUnsignedFraction (text : List Char) : Prop :=
  ∃ digit digits mark after, text = digit :: (digits ++ mark :: after) ∧ digit.isDigit = true ∧
    (∀ other ∈ digits, other.isDigit = true) ∧ (mark = '.' ∨ mark = 'e') ∧
    ∀ other ∈ after, other.isDigit = true ∨ other ∈ ['.', 'e', '-']

section

variable {digit : Char} {rest : List Char} (starts : decimal.digits.toList = digit :: rest)
  (areDigits : ∀ other ∈ decimal.digits.toList, other.isDigit = true)

include starts areDigits

theorem isUnsignedFraction_scientific : IsUnsignedFraction decimal.scientific.toList := by
  have isDigit := areDigits digit (starts ▸ List.mem_cons_self)
  have restDigits : ∀ other ∈ rest, other.isDigit = true :=
    fun other member => areDigits other (starts ▸ List.mem_cons_of_mem _ member)
  have exponent : ∀ other ∈ (toString (decimal.point - 1)).toList,
      other.isDigit = true ∨ other ∈ ['.', 'e', '-'] :=
    Int.forall_mem_toString (.inr (by simp)) (by decide) _
  unfold scientific
  rw [starts]
  cases rest with
  | nil =>
      refine ⟨digit, [], 'e', _, ?_, isDigit, List.forall_mem_nil _, .inr rfl, exponent⟩
      simp
  | cons second rest =>
      refine ⟨digit, [], '.', second :: rest ++ 'e' :: (toString (decimal.point - 1)).toList, ?_,
        isDigit, List.forall_mem_nil _, .inl rfl, ?_⟩
      · simp
      · intro other member
        rcases List.mem_append.1 member with member | member
        · exact .inl (restDigits other member)
        · rcases List.mem_cons.1 member with rfl | member
          · exact .inr (by simp)
          · exact exponent other member

theorem isUnsignedFraction_positional (fraction : ¬ decimal.digits.length ≤ decimal.point.toNat) :
    IsUnsignedFraction decimal.positional.toList := by
  have isDigit := areDigits digit (starts ▸ List.mem_cons_self)
  unfold positional
  dsimp only
  split
  · refine ⟨'0', [], '.', List.replicate (-decimal.point).toNat '0' ++ decimal.digits.toList, ?_,
      rfl, List.forall_mem_nil _, .inl rfl, ?_⟩
    · simp
    · intro other member
      rcases List.mem_append.1 member with member | member
      · rw [List.eq_of_mem_replicate member]
        exact .inl rfl
      · exact .inl (areDigits other member)
  · rename_i positive
    rcases Nat.exists_eq_succ_of_ne_zero (by omega : decimal.point.toNat ≠ 0) with ⟨before, isPoint⟩
    refine ⟨digit, rest.take before, '.', rest.drop before, ?_, isDigit, ?_, .inl rfl, ?_⟩
    · simp [starts, isPoint]
    · exact fun other member =>
        areDigits other (starts ▸ List.mem_cons_of_mem _ (List.mem_of_mem_take member))
    · exact fun other member =>
        .inl (areDigits other (starts ▸ List.mem_cons_of_mem _ (List.mem_of_mem_drop member)))

theorem isUnsignedFraction_whole (whole : decimal.digits.length ≤ decimal.point.toNat) :
    IsUnsignedFraction (decimal.positional ++ ".0").toList := by
  have isDigit := areDigits digit (starts ▸ List.mem_cons_self)
  have positive : 0 < decimal.point := by
    rw [← String.length_toList, starts, List.length_cons] at whole
    omega
  unfold positional
  dsimp only
  rw [if_neg (by omega), if_pos whole]
  refine ⟨digit, rest ++ List.replicate (decimal.point - decimal.digits.length).toNat '0', '.', ['0'],
    ?_, isDigit, ?_, .inl rfl, by simp⟩
  · simp [starts]
  · intro other member
    rcases List.mem_append.1 member with member | member
    · exact areDigits other (starts ▸ List.mem_cons_of_mem _ member)
    · rw [List.eq_of_mem_replicate member]
      rfl

end

end Shortest.Decimal

open Shortest in
theorem Binary64.isFraction_marked (number : Binary64) : IsFraction number.marked.toList := by
  have withSign {text : String} (negative : Bool) (unsigned : Decimal.IsUnsignedFraction text.toList) :
      IsFraction (signText negative ++ text).toList := by
    rcases unsigned with ⟨digit, digits, mark, after, isText, isDigit, areDigits, isMark, unmarked⟩
    rw [String.toList_append, isText]
    refine .number ?_ isDigit areDigits isMark unmarked
    cases negative with
    | false => exact .inl rfl
    | true => exact .inr rfl
  unfold marked
  split
  · exact .special (by simp)
  · rename_i negative
    cases negative <;> exact .special (by simp [signText])
  · exact withSign _ ⟨'0', [], '.', ['0'], rfl, rfl, List.forall_mem_nil _, .inl rfl, by simp⟩
  · rename_i negative significand exponent notZero
    rcases exists_digits_decimal (Nat.pos_of_ne_zero notZero) exponent with ⟨digit, rest, starts⟩
    have areDigits : ∀ other ∈ (decimal significand exponent).digits.toList, other.isDigit = true :=
      fun _ => isDigit_of_mem_decimal
    dsimp only
    split
    · exact withSign _ (Decimal.isUnsignedFraction_scientific starts areDigits)
    · split
      · exact withSign _ (Decimal.isUnsignedFraction_whole starts areDigits ‹_›)
      · exact withSign _ (Decimal.isUnsignedFraction_positional starts areDigits ‹_›)

end MacroSandbox
