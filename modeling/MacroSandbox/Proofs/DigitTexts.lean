import MacroSandbox.Number.Numeral

/-! Digits of numbers, and the numbers read back that they spell.

Main statements: `natural?_toDigits`, `int64?_toDigits` and `int64?_minus_toDigits`, by which the digits
of a number are read as the number if it is below the bound, and refused if it is not. -/

namespace MacroSandbox

namespace Numeral

/-! ## Single digits -/

theorem digit?_digitChar {radix value : Nat} (most : radix ≤ 16) (small : value < radix) :
    digit? radix value.digitChar = some value := by
  have shown : ∀ value < 16, value.digitChar.toNat = if value < 10 then 48 + value else 87 + value := by
    decide
  have code := shown value (by omega)
  unfold digit?
  dsimp only
  rw [code]
  split <;> grind

theorem digitChar_cases : ∀ value < 16,
    isPart value.digitChar = true ∧ value.digitChar ≠ '-' ∧ value.digitChar ≠ '+' := by
  decide

/-! ## Several digits -/

section

variable {radix bound number : Nat}

theorem exists_of_mem_toDigits (least : 1 < radix) {character : Char}
    (member : character ∈ Nat.toDigits radix number) :
    ∃ value < radix, character = value.digitChar := by
  induction number using Nat.strongRecOn with
  | ind number induction =>
      rcases Nat.lt_or_ge number radix with small | large
      · rw [Nat.toDigits_of_lt_base small, List.mem_singleton] at member
        exact ⟨number, small, member⟩
      · rw [Nat.toDigits_of_base_le least large, List.mem_append, List.mem_singleton] at member
        rcases member with earlier | last
        · exact induction (number / radix) (Nat.div_lt_self (by omega) least) earlier
        · exact ⟨number % radix, Nat.mod_lt _ (by omega), last⟩

theorem digitsBelow_append (radix bound : Nat) : ∀ (first second : List Char) (sum : Nat),
    digitsBelow radix bound (first ++ second) sum =
      (digitsBelow radix bound first sum).bind (digitsBelow radix bound second)
  | [], second, sum => rfl
  | character :: rest, second, sum => by
      simp only [List.cons_append, digitsBelow]
      split
      · split
        · exact digitsBelow_append radix bound rest second _
        · rfl
      · rfl

theorem digitsBelow_toDigits (least : 1 < radix) (most : radix ≤ 16) :
    digitsBelow radix bound (Nat.toDigits radix number) 0 =
      if number < bound then some number else none := by
  induction number using Nat.strongRecOn with
  | ind number induction =>
      rcases Nat.lt_or_ge number radix with small | large
      · rw [Nat.toDigits_of_lt_base small]
        simp [digitsBelow, digit?_digitChar most small]
      · -- All digits but the last are those of the quotient.
        have last := digit?_digitChar most (Nat.mod_lt number (y := radix) (by omega))
        have smaller : number / radix < number := Nat.div_lt_self (by omega) least
        rw [Nat.toDigits_of_base_le least large, digitsBelow_append, induction _ smaller]
        split
        · simp [digitsBelow, last, Nat.div_add_mod']
        · rw [if_neg (by omega)]
          rfl

theorem natural?_toDigits (least : 1 < radix) (most : radix ≤ 16) :
    natural? radix bound (Nat.toDigits radix number) =
      if number < bound then some number else none := by
  rw [← digitsBelow_toDigits least most]
  cases digits : Nat.toDigits radix number with
  | nil => exact absurd digits Nat.toDigits_ne_nil
  | cons => rfl

theorem isPart_of_mem_toDigits (least : 1 < radix) (most : radix ≤ 16) {character : Char}
    (member : character ∈ Nat.toDigits radix number) :
    isPart character = true ∧ character ≠ '-' ∧ character ≠ '+' := by
  obtain ⟨value, small, rfl⟩ := exists_of_mem_toDigits least member
  exact digitChar_cases value (Nat.lt_of_lt_of_le small most)

theorem characters_ofList {text : List Char}
    (parts : ∀ character ∈ text, isPart character = true) :
    characters (String.ofList text) = text := by
  rw [characters, Text.all_eq, String.toList_ofList, if_pos (List.all_eq_true.2 parts)]

theorem int64?_toDigits (least : 1 < radix) (most : radix ≤ 16) :
    int64? radix (String.ofList (Nat.toDigits radix number)) =
      if number < 0x8000000000000000 then some (Int64.ofNat number) else none := by
  have unsigned {character : Char} (member : character ∈ Nat.toDigits radix number) :=
    (isPart_of_mem_toDigits least most member).2
  unfold int64?
  rw [characters_ofList fun _ member => (isPart_of_mem_toDigits least most member).1]
  split
  · rename_i digits same
    exact absurd rfl (unsigned (same ▸ .head _)).1
  · rename_i digits same
    exact absurd rfl (unsigned (same ▸ .head _)).2
  · rw [natural?_toDigits least most]
    exact apply_ite (Option.map Int64.ofNat) _ (some number) none

/-- After a minus sign one more number is read: the magnitude of the least integer. -/
theorem int64?_minus_toDigits (least : 1 < radix) (most : radix ≤ 16) :
    int64? radix (String.ofList ('-' :: Nat.toDigits radix number)) =
      if number < 0x8000000000000001 then some (Int64.ofInt (-(number : Int))) else none := by
  have parts : ∀ character ∈ '-' :: Nat.toDigits radix number, isPart character = true :=
    List.forall_mem_cons.2 ⟨rfl, fun _ member => (isPart_of_mem_toDigits least most member).1⟩
  unfold int64?
  rw [characters_ofList parts]
  simp only [natural?_toDigits least most]
  split <;> rfl

end

end Numeral

/-! ## Texts of numbers -/

namespace Int

theorem toString_eq_of_nonneg {number : Int} (positive : 0 ≤ number) :
    toString number = String.ofList (Nat.toDigits 10 number.natAbs) := by
  cases number with
  | ofNat magnitude => rfl
  | negSucc less => exact absurd (Int.negSucc_lt_zero less) (Int.not_lt.2 positive)

theorem toString_eq_of_neg {number : Int} (negative : number < 0) :
    toString number = String.ofList ('-' :: Nat.toDigits 10 number.natAbs) := by
  cases number with
  | ofNat magnitude => exact absurd negative (Int.not_lt.2 (Int.natCast_nonneg magnitude))
  | negSucc less =>
      rw [← String.toList_inj, show toString (Int.negSucc less) = "-" ++ toString (less + 1) from rfl]
      simp

end Int

end MacroSandbox
