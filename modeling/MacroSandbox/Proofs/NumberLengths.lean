import Mathlib.Data.Nat.Digits.Defs
import MacroSandbox.Encoding.Hex
import MacroSandbox.Number.FloatText
import MacroSandbox.Proofs.DigitTexts

/-! How long the texts of numbers are.

Positional notation spells out every zero between the digits and the point, so the text of a
floating-point number has hundreds of characters at the ends of the range. The bounds here are coarse:
they say that no number has a text that is large on the scale of the limits of a run. -/

namespace MacroSandbox

/-! ## Integers -/

theorem Nat.length_toString_le {number count : Nat} (positive : 0 < count)
    (small : number < 10 ^ count) : (toString number).length ≤ count := by
  rw [← String.length_toList, Nat.toString_eq_repr, Nat.toList_repr]
  exact Nat.toDigits_length 10 number count positive small

theorem Int.length_toString_le {number : Int} {count : Nat} (positive : 0 < count)
    (small : number.natAbs < 10 ^ count) : (toString number).length ≤ count + 1 := by
  have digits := Nat.toDigits_length 10 number.natAbs count positive small
  rcases Int.lt_or_le number 0 with negative | nonnegative
  · rw [toString_eq_of_neg negative, String.length_ofList, List.length_cons]
    exact Nat.succ_le_succ digits
  · rw [toString_eq_of_nonneg nonnegative, String.length_ofList]
    exact Nat.le_succ_of_le digits

theorem Int64.length_toString_le (number : Int64) : (toString number.toInt).length ≤ 20 := by
  refine Int.length_toString_le (by decide) ?_
  have := number.le_toInt
  have := number.toInt_lt
  omega

theorem Hex.length_ofInteger_le (number : Int64) : (Hex.ofInteger number).length ≤ 16 := by
  rw [Hex.ofInteger, String.length_ofList, List.length_map]
  exact Nat.toDigits_length 16 _ 16 (by decide) number.toUInt64.toNat_lt

/-! ## Decimals -/

namespace Shortest

namespace Interval

/-- Whether the interval is around a number that 64 bits can hold. -/
structure IsBounded (interval : Interval) : Prop where
  value : interval.value < 10 ^ 309
  denominator : interval.denominator < 10 ^ 324

theorem isBounded_around {significand : Nat} {exponent : Int} (fits : significand < 2 ^ 53)
    (least : -1074 ≤ exponent) (most : exponent ≤ 972) :
    (around significand exponent).IsBounded := by
  refine ⟨?_, ?_⟩
  · calc (around significand exponent).value
        = 4 * significand * 2 ^ (exponent - 2).toNat := rfl
      _ ≤ 4 * 2 ^ 53 * 2 ^ 970 :=
          Nat.mul_le_mul (Nat.mul_le_mul_left 4 (Nat.le_of_lt fits))
            (Nat.pow_le_pow_right (by decide) (by omega))
      _ < 10 ^ 309 := by decide +kernel
  · calc (around significand exponent).denominator
        = 2 ^ (2 - exponent).toNat := rfl
      _ ≤ 2 ^ 1076 := Nat.pow_le_pow_right (by decide) (by omega)
      _ < 10 ^ 324 := by decide +kernel

variable {interval : Interval}

theorem point_bounds (bounded : interval.IsBounded) :
    -323 ≤ interval.point ∧ interval.point ≤ 309 := by
  unfold point
  split
  · have := Nat.length_toString_le (by decide)
      (Nat.lt_of_le_of_lt (Nat.div_le_self _ interval.denominator) bounded.value)
    omega
  · have := Nat.length_toString_le (by decide)
      (Nat.lt_of_le_of_lt (Nat.div_le_self _ interval.value) bounded.denominator)
    omega

theorem le_of_atLength? {count digits : Nat} (found : interval.atLength? count = some digits) :
    digits ≤ interval.value * 10 ^ (count - interval.point).toNat + 1 := by
  have quotient (divisor : Nat) :
      interval.value * Nat.pow 10 (-(interval.point - count)).toNat / divisor + 1 ≤
        interval.value * 10 ^ (count - interval.point).toNat + 1 := by
    rw [Int.neg_sub]
    exact Nat.succ_le_succ (Nat.div_le_self _ _)
  unfold atLength? at found
  dsimp only at found
  split at found
  · rw [← Option.some.inj found]
    split
    · exact quotient _
    · exact Nat.le_trans (Nat.le_succ _) (quotient _)
  · rw [← Option.some.inj found]
    exact Nat.le_trans (Nat.le_succ _) (quotient _)
  · rw [← Option.some.inj found]
    exact quotient _
  · cases found

theorem shortestFrom_bounds (bounded : interval.IsBounded) :
    ∀ lengths count : Nat, count + lengths ≤ 18 →
      (interval.shortestFrom lengths count).1 ≤ 18 ∧
        (interval.shortestFrom lengths count).2 < 10 ^ 650
  | 0, count, few => ⟨few, show 1 < 10 ^ 650 by decide +kernel⟩
  | lengths + 1, count, few => by
      rw [shortestFrom]
      split
      · rename_i digits found
        refine ⟨by dsimp only; omega, ?_⟩
        have := point_bounds bounded
        calc digits
            ≤ interval.value * 10 ^ (count - interval.point).toNat + 1 := le_of_atLength? found
          _ ≤ 10 ^ 309 * 10 ^ 340 + 1 :=
              Nat.succ_le_succ (Nat.mul_le_mul (Nat.le_of_lt bounded.value)
                (Nat.pow_le_pow_right (by decide) (by omega)))
          _ < 10 ^ 650 := by decide +kernel
      · exact shortestFrom_bounds bounded lengths (count + 1) (by omega)

end Interval

theorem length_dropZeros_le (digits : String) : (dropZeros digits).length ≤ digits.length := by
  rw [dropZeros, String.length_ofList, List.length_reverse]
  have kept := (List.dropWhile_sublist (· == '0') (l := digits.toList.reverse)).length_le
  rwa [List.length_reverse, String.length_toList] at kept

/-- The decimal of a number has not too many digits, and its point is not too far away. -/
theorem decimal_bounds {significand : Nat} {exponent : Int} (fits : significand < 2 ^ 53)
    (least : -1074 ≤ exponent) (most : exponent ≤ 972) :
    (decimal significand exponent).digits.length ≤ 650 ∧
      -341 ≤ (decimal significand exponent).point ∧
        (decimal significand exponent).point ≤ 959 := by
  have bounded := Interval.isBounded_around fits least most
  have point := Interval.point_bounds bounded
  have shortest := Interval.shortestFrom_bounds bounded 17 1 (by decide)
  have text := Nat.length_toString_le (by decide) shortest.2
  unfold decimal
  dsimp only
  refine ⟨Nat.le_trans (length_dropZeros_le _) text, ?_, ?_⟩ <;> omega

theorem Decimal.length_positional_le {decimal : Decimal} (digits : decimal.digits.length ≤ 650)
    (least : -341 ≤ decimal.point) (most : decimal.point ≤ 959) :
    decimal.positional.length ≤ 1609 := by
  have start : "0.".length = 2 := rfl
  have mark : ".".length = 1 := rfl
  unfold positional
  dsimp only
  split
  · simp only [String.length_append, String.length_ofList, List.length_replicate]
    omega
  · split
    · simp only [String.length_append, String.length_ofList, List.length_replicate]
      omega
    · simp only [String.length_append, String.length_ofList, List.length_take, List.length_drop,
        String.length_toList]
      omega

end Shortest

/-! ## Floating-point numbers -/

namespace Binary64

def IsBounded : Binary64 → Prop
  | .finite _ significand exponent =>
      significand < 2 ^ 53 ∧ -1074 ≤ exponent ∧ exponent ≤ 972
  | _ => True

theorem isBounded_ofFloat (number : Float) : (ofFloat number).IsBounded := by
  have fraction : (number.toBits &&& 0xFFFFFFFFFFFFF).toNat ≤ 0xFFFFFFFFFFFFF := by
    rw [UInt64.toNat_and]
    exact Nat.and_le_right
  have exponent : ((number.toBits >>> 52) &&& 0x7FF).toNat ≤ 0x7FF := by
    rw [UInt64.toNat_and]
    exact Nat.and_le_right
  unfold ofFloat
  dsimp only
  split
  · split <;> trivial
  · split
    · exact ⟨by omega, by decide, by decide⟩
    · rename_i positive
      have : ((number.toBits >>> 52) &&& 0x7FF).toNat ≠ 0 := by simpa using positive
      exact ⟨by omega, by omega, by omega⟩

theorem length_plain_le {number : Binary64} (bounded : number.IsBounded) :
    number.plain.length ≤ 1610 := by
  have sign (negative : Bool) : (signText negative).length ≤ 1 := by cases negative <;> decide
  unfold plain
  split
  · decide
  · rename_i negative
    have := sign negative
    rw [String.length_append, show "inf".length = 3 from rfl]
    omega
  · rename_i negative _
    have := sign negative
    rw [String.length_append, show "0".length = 1 from rfl]
    omega
  · rename_i negative significand exponent _
    have := sign negative
    have digits := Shortest.decimal_bounds bounded.1 bounded.2.1 bounded.2.2
    have := Shortest.Decimal.length_positional_le digits.1 digits.2.1 digits.2.2
    rw [String.length_append]
    omega

end Binary64

theorem length_floatText_le (number : Float) : (floatText number).length ≤ 1610 :=
  Binary64.length_plain_le (Binary64.isBounded_ofFloat number)

end MacroSandbox
