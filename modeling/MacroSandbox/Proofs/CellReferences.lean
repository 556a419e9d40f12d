import MacroSandbox.Document
import MacroSandbox.Proofs.Variables
import Mathlib.Data.List.Induction
import Mathlib.Data.Nat.Digits.Defs

/-! References to cells.

A reference is read exactly if it spells a cell: the letters are the digits of the column in the
bijective numeral system of base 26, in which every number from one on has one spelling, and the rest
are the decimal digits of the row. -/

namespace MacroSandbox

/-! ## Positional numerals -/

/-- The value of digits, of which the last one counts least. -/
def positional (base : Nat) (digits : List Nat) : Nat :=
  Nat.ofDigits base digits.reverse

@[simp] theorem positional_nil (base : Nat) : positional base [] = 0 :=
  Nat.ofDigits_nil

theorem positional_eq_foldl (base : Nat) (digits : List Nat) :
    positional base digits = digits.foldl (fun sum digit => sum * base + digit) 0 := by
  rw [positional, Nat.ofDigits_eq_foldr, List.foldr_reverse]
  simp only [Nat.cast_id, Nat.add_comm, Nat.mul_comm]

theorem positional_concat (base : Nat) (digits : List Nat) (last : Nat) :
    positional base (digits ++ [last]) = positional base digits * base + last := by
  rw [positional_eq_foldl, positional_eq_foldl, List.foldl_append, List.foldl_cons, List.foldl_nil]

private theorem le_of_mul_add_eq {base left right first second : Nat}
    (same : left * base + first = right * base + second) (small : first ≤ base)
    (positive : 1 ≤ second) : right ≤ left := by
  by_contra less
  have next := Nat.mul_le_mul_right base (Nat.lt_of_not_le less)
  rw [Nat.succ_mul] at next
  omega

/-- In bijective numeration no digit is zero, and no two lists of digits have one value. -/
theorem eq_of_positional_eq {base : Nat} : ∀ {left right : List Nat},
    (∀ digit ∈ left, 1 ≤ digit ∧ digit ≤ base) → (∀ digit ∈ right, 1 ≤ digit ∧ digit ≤ base) →
    positional base left = positional base right → left = right := by
  intro left
  induction left using List.reverseRecOn with
  | nil =>
      intro right _ rightDigits same
      rcases List.eq_nil_or_concat right with rfl | ⟨rest, last, rfl⟩
      · rfl
      · have bounds := rightDigits last (by simp)
        rw [List.concat_eq_append, positional_concat, positional_nil] at same
        omega
  | append_singleton front digit hypothesis =>
      intro right leftDigits rightDigits same
      have bounds := leftDigits digit (by simp)
      rcases List.eq_nil_or_concat right with rfl | ⟨rest, last, rfl⟩
      · rw [positional_concat, positional_nil] at same
        omega
      · rw [List.concat_eq_append] at rightDigits same ⊢
        have lastBounds := rightDigits last (by simp)
        rw [positional_concat, positional_concat] at same
        have quotient : positional base front = positional base rest :=
          Nat.le_antisymm (le_of_mul_add_eq same.symm lastBounds.2 bounds.1)
            (le_of_mul_add_eq same bounds.2 lastBounds.1)
        have sameDigit : digit = last := by
          rw [quotient] at same
          omega
        rw [sameDigit, hypothesis (fun digit member => leftDigits digit (by simp [member]))
          (fun digit member => rightDigits digit (by simp [member])) quotient]

/-! ## Letters and digits -/

namespace Cell

/-- The value of a letter in a column, whatever its case: one for the first letter. -/
def letterValue (letter : Char) : Nat :=
  letter.toUpper.toNat - 'A'.toNat + 1

def digitValue (digit : Char) : Nat :=
  digit.toNat - '0'.toNat

theorem isDigit_iff_toNat {character : Char} :
    character.isDigit = true ↔ 48 ≤ character.toNat ∧ character.toNat ≤ 57 := by
  simp [Char.isDigit, UInt32.le_iff_toNat_le, ← Char.toNat_val]

theorem isAlpha_iff_toNat {character : Char} :
    character.isAlpha = true ↔ 65 ≤ character.toNat ∧ character.toNat ≤ 90 ∨
      97 ≤ character.toNat ∧ character.toNat ≤ 122 := by
  simp [Char.isAlpha, Char.isUpper, Char.isLower, UInt32.le_iff_toNat_le, ← Char.toNat_val]

theorem toNat_toUpper_of_isAlpha {letter : Char} (isLetter : letter.isAlpha = true) :
    65 ≤ letter.toUpper.toNat ∧ letter.toUpper.toNat ≤ 90 := by
  have code := isAlpha_iff_toNat.1 isLetter
  unfold Char.toUpper
  split
  · rename_i isLower
    simp only [UInt32.le_iff_toNat_le, Char.reduceVal, UInt32.reduceToNat] at isLower
    rw [← Char.toNat_val]
    simp only [UInt32.toNat_add, Char.reduceVal, UInt32.reduceSub, UInt32.reduceToNat]
    omega
  · rename_i notLower
    simp only [UInt32.le_iff_toNat_le, Char.reduceVal, UInt32.reduceToNat, Char.toNat_val]
      at notLower
    omega

theorem isDigit_eq_false_of_isAlpha {letter : Char} (isLetter : letter.isAlpha = true) :
    letter.isDigit = false := by
  have code := isAlpha_iff_toNat.1 isLetter
  rw [← Bool.not_eq_true, isDigit_iff_toNat]
  omega

theorem letterValue_bounds {letter : Char} (isLetter : letter.isAlpha = true) :
    1 ≤ letterValue letter ∧ letterValue letter ≤ 26 := by
  have code := toNat_toUpper_of_isAlpha isLetter
  simp only [letterValue, Char.reduceToNat]
  omega

theorem toUpper_eq_of_letterValue_eq {left right : Char} (isLeft : left.isAlpha = true)
    (isRight : right.isAlpha = true) (same : letterValue left = letterValue right) :
    left.toUpper = right.toUpper := by
  have leftCode := toNat_toUpper_of_isAlpha isLeft
  have rightCode := toNat_toUpper_of_isAlpha isRight
  simp only [letterValue, Char.reduceToNat] at same
  exact Char.toNat_inj.1 (by omega)

/-! ## Columns -/

theorem columnNumber_eq {letters : List Char}
    (areLetters : ∀ letter ∈ letters, letter.isAlpha = true) :
    columnNumber letters = positional 26 (letters.map letterValue) := by
  rw [columnNumber, positional_eq_foldl, List.foldl_map]
  apply List.foldl_ext
  intro sum letter member
  have code := toNat_toUpper_of_isAlpha (areLetters letter member)
  simp only [letterValue, Char.reduceToNat]
  omega

theorem map_letterValue_bounds {letters : List Char}
    (areLetters : ∀ letter ∈ letters, letter.isAlpha = true) :
    ∀ digit ∈ letters.map letterValue, 1 ≤ digit ∧ digit ≤ 26 := by
  intro digit member
  obtain ⟨letter, inside, rfl⟩ := List.mem_map.1 member
  exact letterValue_bounds (areLetters letter inside)

private theorem map_toUpper_eq_of_values : ∀ {left right : List Char},
    (∀ letter ∈ left, letter.isAlpha = true) → (∀ letter ∈ right, letter.isAlpha = true) →
    left.map letterValue = right.map letterValue → left.map Char.toUpper = right.map Char.toUpper
  | [], [], _, _, _ => rfl
  | first :: left, second :: right, leftLetters, rightLetters, same => by
      rw [List.map_cons, List.map_cons, List.cons.injEq] at same ⊢
      rw [List.forall_mem_cons] at leftLetters rightLetters
      exact ⟨toUpper_eq_of_letterValue_eq leftLetters.1 rightLetters.1 same.1,
        map_toUpper_eq_of_values leftLetters.2 rightLetters.2 same.2⟩

theorem columnNumber_eq_iff {left right : List Char}
    (leftLetters : ∀ letter ∈ left, letter.isAlpha = true)
    (rightLetters : ∀ letter ∈ right, letter.isAlpha = true) :
    columnNumber left = columnNumber right ↔ left.map Char.toUpper = right.map Char.toUpper := by
  constructor
  · intro same
    rw [columnNumber_eq leftLetters, columnNumber_eq rightLetters] at same
    have values := eq_of_positional_eq (map_letterValue_bounds leftLetters)
      (map_letterValue_bounds rightLetters) same
    exact map_toUpper_eq_of_values leftLetters rightLetters values
  · intro same
    rw [columnNumber, columnNumber,
      ← List.foldl_map (f := Char.toUpper) (g := fun sum letter => sum * 26 + (letter.toNat - 0x40)),
      ← List.foldl_map (f := Char.toUpper) (g := fun sum letter => sum * 26 + (letter.toNat - 0x40)),
      same]

theorem columnNumber_le {letters : List Char}
    (areLetters : ∀ letter ∈ letters, letter.isAlpha = true) (few : letters.length ≤ 3) :
    columnNumber letters ≤ 18278 := by
  rw [columnNumber_eq areLetters, positional_eq_foldl]
  have bounds := map_letterValue_bounds areLetters
  rw [← List.length_map (f := letterValue)] at few
  generalize letters.map letterValue = digits at few bounds
  rcases digits with _ | ⟨first, _ | ⟨second, _ | ⟨third, _ | ⟨fourth, rest⟩⟩⟩⟩
  · simp
  · have one := bounds first (by simp)
    simp only [List.foldl_cons, List.foldl_nil]
    omega
  · have one := bounds first (by simp)
    have two := bounds second (by simp)
    simp only [List.foldl_cons, List.foldl_nil]
    omega
  · have one := bounds first (by simp)
    have two := bounds second (by simp)
    have three := bounds third (by simp)
    simp only [List.foldl_cons, List.foldl_nil]
    omega
  · simp only [List.length_cons] at few
    omega

end Cell

/-! ## Rows -/

namespace Numeral

theorem digit?_ten_eq_some_iff {character : Char} {value : Nat} :
    digit? 10 character = some value ↔
      character.isDigit = true ∧ value = Cell.digitValue character := by
  simp only [Cell.isDigit_iff_toNat, Cell.digitValue, digit?, Char.reduceToNat]
  grind

theorem le_foldl (digits : List Nat) (sum : Nat) :
    sum ≤ digits.foldl (fun sum digit => sum * 10 + digit) sum := by
  induction digits generalizing sum with
  | nil => exact Nat.le_refl sum
  | cons digit rest hypothesis =>
      have := hypothesis (sum * 10 + digit)
      rw [List.foldl_cons]
      omega

/-- A numeral is refused as soon as it reaches the bound, which is if its value does. -/
theorem digitsBelow_ten_eq_some_iff {bound : Nat} {digits : List Char} {sum value : Nat} :
    digitsBelow 10 bound digits sum = some value ↔
      (∀ digit ∈ digits, digit.isDigit = true) ∧
        value = (digits.map Cell.digitValue).foldl (fun sum digit => sum * 10 + digit) sum ∧
        (digits = [] ∨ value < bound) := by
  induction digits generalizing sum with
  | nil =>
      simp only [digitsBelow, Option.some.injEq, List.not_mem_nil, false_implies, implies_true,
        true_and, List.map_nil, List.foldl_nil, true_or, and_true]
      exact eq_comm
  | cons digit rest hypothesis =>
      rw [digitsBelow, List.map_cons, List.foldl_cons]
      cases read : digit? 10 digit with
      | none =>
          have notDigit : ¬ digit.isDigit = true := by
            intro isDigit
            rw [digit?_ten_eq_some_iff.2 ⟨isDigit, rfl⟩] at read
            cases read
          simp [notDigit]
      | some found =>
          obtain ⟨isDigit, rfl⟩ := digit?_ten_eq_some_iff.1 read
          -- The sum only grows, so it is enough to look at the bound after every digit.
          have grows := le_foldl (rest.map Cell.digitValue) (sum * 10 + Cell.digitValue digit)
          simp only [List.forall_mem_cons, isDigit, true_and, reduceCtorEq, false_or]
          split
          · rename_i small
            rw [hypothesis]
            refine and_congr_right fun _ => and_congr_right fun isValue => ?_
            constructor
            · rintro (rfl | below)
              · rw [isValue]
                exact small
              · exact below
            · exact .inr
          · simp only [reduceCtorEq, false_iff, not_and]
            intro _ isValue
            omega

theorem below?_ten_eq_some_iff {bound value : Nat} {digits : List Char}
    (noSign : digits.head? ≠ some '+') :
    below? 10 bound digits = some value ↔
      digits ≠ [] ∧ (∀ digit ∈ digits, digit.isDigit = true) ∧
        value = positional 10 (digits.map Cell.digitValue) ∧ value < bound := by
  have unsigned : below? 10 bound digits = natural? 10 bound digits := by
    unfold below?
    split
    · exact absurd rfl noSign
    · rfl
  rw [unsigned, positional_eq_foldl]
  cases digits with
  | nil => simp [natural?]
  | cons digit rest =>
      rw [natural?, digitsBelow_ten_eq_some_iff]
      · simp
      · nofun

end Numeral

/-! ## References -/

namespace Cell

/-- A reference names a cell: without the white space around it and without dollar signs it is made
up of one to three letters, which spell the column, and of digits, which spell the row. -/
structure IsNamedBy (cell : Cell) (reference : String) (letters digits : List Char) : Prop where
  parts : (Text.trim reference).toList.filter (· != '$') = letters ++ digits
  fewLetters : 1 ≤ letters.length ∧ letters.length ≤ 3
  areLetters : ∀ letter ∈ letters, letter.isAlpha = true
  someDigits : 1 ≤ digits.length
  areDigits : ∀ digit ∈ digits, digit.isDigit = true
  row : cell.row = positional 10 (digits.map digitValue)
  rowBounds : 1 ≤ cell.row ∧ cell.row < 2 ^ 32
  column : cell.column = positional 26 (letters.map letterValue)

theorem takeWhile_letters {letters digits : List Char}
    (areLetters : ∀ letter ∈ letters, letter.isAlpha = true)
    (areDigits : ∀ digit ∈ digits, digit.isDigit = true) :
    (letters ++ digits).takeWhile (!·.isDigit) = letters ∧
      (letters ++ digits).dropWhile (!·.isDigit) = digits := by
  have inside : ∀ letter ∈ letters, (!letter.isDigit) = true := by
    intro letter member
    rw [isDigit_eq_false_of_isAlpha (areLetters letter member), Bool.not_false]
  rw [List.takeWhile_append_of_pos inside, List.dropWhile_append_of_pos inside]
  cases digits with
  | nil => simp
  | cons digit rest =>
      have isDigit := areDigits digit (by simp)
      simp [isDigit]

theorem exists_isNamedBy {reference : String} {cell : Cell}
    (read : ofReference? reference = some cell) :
    ∃ letters digits, cell.IsNamedBy reference letters digits := by
  unfold ofReference? at read
  dsimp only at read
  generalize chars : (Text.trim reference).toList.filter (· != '$') = characters at read
  generalize front : characters.takeWhile (!·.isDigit) = letters at read
  generalize back : characters.dropWhile (!·.isDigit) = digits at read
  have parts : characters = letters ++ digits := by
    rw [← front, ← back, List.takeWhile_append_dropWhile]
  split at read
  · cases read
  · rename_i wellFormed
    simp only [Bool.or_eq_true, List.isEmpty_iff, decide_eq_true_eq, Bool.not_eq_true',
      not_or, Bool.not_eq_false, List.all_eq_true] at wellFormed
    -- The rest starts with a digit, so it is not read as a number with a sign.
    have noSign : digits.head? ≠ some '+' := by
      intro sign
      rw [← back] at sign
      have := List.head?_dropWhile_not (!·.isDigit) characters
      rw [sign] at this
      cases this
    split at read
    · rename_i row isRow
      split at read
      · cases read
      · rename_i positive
        cases read
        obtain ⟨someDigits, areDigits, isValue, below⟩ :=
          (Numeral.below?_ten_eq_some_iff noSign).1 isRow
        rw [beq_iff_eq] at positive
        exact ⟨letters, digits, chars.trans parts,
          ⟨List.length_pos_iff.2 wellFormed.1.1, Nat.not_lt.1 wellFormed.1.2⟩, wellFormed.2,
          List.length_pos_iff.2 someDigits, areDigits, isValue,
          ⟨Nat.one_le_iff_ne_zero.2 positive, below⟩, columnNumber_eq wellFormed.2⟩
    · cases read

theorem IsNamedBy.ofReference?_eq {reference : String} {cell : Cell} {letters digits : List Char}
    (named : cell.IsNamedBy reference letters digits) : ofReference? reference = some cell := by
  have split := takeWhile_letters named.areLetters named.areDigits
  rw [← named.parts] at split
  have wellFormed : (letters.isEmpty || decide (3 < letters.length) ||
      !letters.all Char.isAlpha) = false := by
    simp only [Bool.or_eq_false_iff, List.isEmpty_eq_false_iff, decide_eq_false_iff_not,
      Bool.not_eq_false', List.all_eq_true]
    exact ⟨⟨List.length_pos_iff.1 named.fewLetters.1, Nat.not_lt.2 named.fewLetters.2⟩,
      named.areLetters⟩
  have noSign : digits.head? ≠ some '+' := by
    intro sign
    have := named.areDigits _ (List.mem_of_head? sign)
    cases this
  have isRow : Numeral.below? 10 UInt32.size digits = some cell.row :=
    (Numeral.below?_ten_eq_some_iff noSign).2
      ⟨List.length_pos_iff.1 named.someDigits, named.areDigits, named.row, named.rowBounds.2⟩
  have notZero : (cell.row == 0) = false := by
    have := named.rowBounds.1
    simp only [beq_eq_false_iff_ne]
    omega
  simp only [ofReference?, split.1, split.2, wellFormed, isRow, Bool.false_eq_true, if_false,
    notZero, columnNumber_eq named.areLetters, ← named.column]

theorem ofReference?_eq_some_iff {reference : String} {cell : Cell} :
    ofReference? reference = some cell ↔
      ∃ letters digits, cell.IsNamedBy reference letters digits :=
  ⟨exists_isNamedBy, fun ⟨_, _, named⟩ => named.ofReference?_eq⟩

end Cell

end MacroSandbox
