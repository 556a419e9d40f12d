import MacroSandbox.Library.Pure
import MacroSandbox.Proofs.DigitTexts
import MacroSandbox.Proofs.Variables

/-! Hexadecimal digits of integers, written by `Hex` and read after `&H`.

Integers are written in two's complement and read as a magnitude. The two agree below `2 ^ 63`; the digits
of a negative integer stand for a larger number, which is refused and counts as zero. -/

namespace MacroSandbox

/-! ## Integers as unsigned numbers -/

theorem Int64.ofNat_toNat_toUInt64 (number : Int64) :
    Int64.ofNat number.toUInt64.toNat = number := by
  apply Int64.toBitVec_inj.1
  simp

theorem Int64.toNat_toUInt64_lt_iff {number : Int64} :
    number.toUInt64.toNat < 0x8000000000000000 ↔ 0 ≤ number := by
  have magnitude : number.toUInt64.toNat = number.toBitVec.toNat := rfl
  have signed : number.toInt = number.toBitVec.toInt := rfl
  have bounded := number.toBitVec.isLt
  rw [Int64.le_iff_toInt_le, signed, magnitude, BitVec.toInt_eq_toNat_cond, Int64.toInt_zero]
  split <;> omega

/-! ## Digits -/

theorem toLower_toUpper_digitChar :
    ∀ value < 16, value.digitChar.toUpper.toLower = value.digitChar := by
  decide

theorem isBlank_toUpper_digitChar :
    ∀ value < 16, Text.isBlank value.digitChar.toUpper = false := by
  decide

/-- In lower case, the digits that `Hex` writes are those of the unsigned number. -/
theorem Hex.asciiLower_ofInteger (number : Int64) :
    Text.asciiLower (ofInteger number) =
      String.ofList (Nat.toDigits 16 number.toUInt64.toNat) := by
  rw [← String.toList_inj, Text.toList_asciiLower, ofInteger, String.toList_ofList,
    String.toList_ofList, List.map_map]
  refine (List.map_congr_left fun character member => ?_).trans (List.map_id _)
  obtain ⟨value, small, rfl⟩ := Numeral.exists_of_mem_toDigits (by decide) member
  exact toLower_toUpper_digitChar value small

def Hex.numeral (number : Int64) : String :=
  "&H" ++ ofInteger number

theorem Hex.trim_numeral (number : Int64) : Text.trim (numeral number) = numeral number := by
  refine Text.trim_eq_self fun character member => ?_
  rw [numeral, String.toList_append, List.mem_append] at member
  rcases member with mark | isDigit
  · have marks : character = '&' ∨ character = 'H' := by simpa using mark
    rcases marks with rfl | rfl <;> rfl
  · rw [ofInteger, String.toList_ofList, List.mem_map] at isDigit
    obtain ⟨digit, isDigit, rfl⟩ := isDigit
    obtain ⟨value, small, rfl⟩ := Numeral.exists_of_mem_toDigits (by decide) isDigit
    exact isBlank_toUpper_digitChar value small

/-! ## Reading -/

/-- The numeral of an integer is read as the integer unless it is negative, and refused if it is. -/
theorem Value.integerOfText?_numeral (number : Int64) :
    integerOfText? (Hex.numeral number) = if 0 ≤ number then some number else none := by
  have starts : (Hex.numeral number).toList = '&' :: 'H' :: (Hex.ofInteger number).toList := by
    simp [Hex.numeral]
  have notEmpty : (Hex.numeral number).isEmpty = false := by
    rw [← Bool.not_eq_true, String.isEmpty_iff, ← String.toList_eq_nil_iff, starts]
    exact List.cons_ne_nil _ _
  have notNul : Text.all (· == '\x00') (Hex.numeral number) = false := by
    rw [Text.all_eq, starts]
    rfl
  have mark : Text.asciiLower "&H" = "&h" := by decide +kernel
  have lower : Text.asciiLower (Hex.numeral number) =
      "&h" ++ String.ofList (Nat.toDigits 16 number.toUInt64.toNat) := by
    rw [Hex.numeral, Text.asciiLower_append, Hex.asciiLower_ofInteger, mark]
  unfold integerOfText?
  dsimp only
  rw [Hex.trim_numeral, notEmpty, notNul, lower, Text.dropStart?_append]
  dsimp only
  rw [if_neg (by decide), Numeral.int64?_toDigits (by decide) (by decide),
    Int64.ofNat_toNat_toUInt64]
  simp only [Int64.toNat_toUInt64_lt_iff]

theorem Numeral.float?_numeral (number : Int64) : float? (Hex.numeral number) = none := by
  have noPart : Text.all isPart (Hex.numeral number) = false := by
    rw [Text.all_eq, Hex.numeral, String.toList_append]
    rfl
  rw [float?, characters, noPart]
  rfl

theorem Value.toInteger_numeral (number : Int64) :
    (Value.text (Hex.numeral number)).toInteger = if 0 ≤ number then number else 0 := by
  rw [toInteger, integerOfText?_numeral]
  split <;> rfl

theorem Value.toNumber_numeral (number : Int64) :
    (Value.text (Hex.numeral number)).toNumber = .integer (if 0 ≤ number then number else 0) := by
  unfold toNumber
  dsimp only
  rw [Hex.trim_numeral, Numeral.float?_numeral, integerOfText?_numeral, toInteger_numeral]
  split
  · rfl
  · split <;> rename_i read
    · rw [Option.ite_none_right_eq_some] at read
      rw [if_pos read.1, Option.some.inj read.2]
    · rfl

theorem ScalarRoutine.wholeNumber_numeral (number : Int64) :
    wholeNumber (.text (Hex.numeral number)) = if 0 ≤ number then number else 0 := by
  rw [wholeNumber, Value.toNumber_numeral]
  rfl

/-- What `Hex` writes reads back after `&H` as the integer if it is not negative, and as zero if it is,
whether the text is used as an integer or converted to a whole number. -/
theorem hexadecimal_reads_back (heap : Heap) (number : Int64) :
    ∃ digits, ScalarRoutine.hexadecimal.compute heap [.integer number] = .ok (.text digits) ∧
      (Value.text ("&H" ++ digits)).toInteger = (if 0 ≤ number then number else 0) ∧
      ScalarRoutine.toWhole.compute heap [.text ("&H" ++ digits)] =
        .ok (.integer (if 0 ≤ number then number else 0)) := by
  refine ⟨Hex.ofInteger number, rfl, Value.toInteger_numeral number, ?_⟩
  exact congrArg (Except.ok ∘ Value.integer) (ScalarRoutine.wholeNumber_numeral number)

/-- The digits of minus one read back as zero. -/
theorem hexadecimal_of_negative_reads_zero :
    ScalarRoutine.hexadecimal.compute {} [.integer (-1)] = .ok (.text "FFFFFFFFFFFFFFFF") ∧
      (Value.text ("&H" ++ "FFFFFFFFFFFFFFFF")).toInteger = 0 ∧
      ScalarRoutine.toWhole.compute {} [.text ("&H" ++ "FFFFFFFFFFFFFFFF")] =
        .ok (.integer 0) ∧
      (0 : Int64) ≠ -1 := by
  have digits : Hex.ofInteger (-1) = "FFFFFFFFFFFFFFFF" := by decide +kernel
  have numeral : Hex.numeral (-1) = "&H" ++ "FFFFFFFFFFFFFFFF" := by rw [Hex.numeral, digits]
  refine ⟨congrArg (Except.ok ∘ Value.text) digits, ?_, ?_, by decide⟩
  · rw [← numeral, Value.toInteger_numeral]
    rfl
  · rw [← numeral]
    exact congrArg (Except.ok ∘ Value.integer) (ScalarRoutine.wholeNumber_numeral (-1))

end MacroSandbox
