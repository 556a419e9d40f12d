import MacroSandbox.Encoding.Hex
import MacroSandbox.Proofs.Variables

/-! Bytes that are read from hexadecimal text.

Main statement: `Hex.decode?_eq_some_iff`. A text is read as bytes if it is their encoding in either case,
white space apart; and since every pair of characters is read as a numeral, a plus sign in front of the
second digit passes for a zero. -/

namespace MacroSandbox.Hex

/-! ## Single digits -/

theorem digit?_toLower (character : Char) :
    Numeral.digit? 16 character.toLower = Numeral.digit? 16 character := by
  cases isUpper : character.isUpper with
  | false => rw [Text.toLower_eq_self isUpper]
  | true =>
      have inRange := Text.isUpper_iff_toNat.1 isUpper
      have lowered := Text.toNat_toLower_of_isUpper isUpper
      unfold Numeral.digit?
      dsimp only
      rw [lowered]
      grind

theorem digit?_lowerDigit : ∀ value < 16, Numeral.digit? 16 (lowerDigit value) = some value := by
  decide

theorem lowerDigit_of_digit? {character : Char} {value : Nat} (notUpper : character.isUpper = false)
    (read : Numeral.digit? 16 character = some value) : character = lowerDigit value := by
  have shown : ∀ value < 16, (lowerDigit value).toNat = if value < 10 then 48 + value else 87 + value := by
    decide
  rw [← Bool.not_eq_true, Text.isUpper_iff_toNat] at notUpper
  unfold Numeral.digit? at read
  dsimp only at read
  rw [← Char.toNat_inj]
  grind

theorem digit?_eq_some_iff {character : Char} {value : Nat} :
    Numeral.digit? 16 character = some value ↔
      value < 16 ∧ character.toLower = lowerDigit value := by
  constructor
  · intro read
    refine ⟨?_, ?_⟩
    · unfold Numeral.digit? at read
      grind
    · rw [← digit?_toLower] at read
      exact lowerDigit_of_digit? (Text.isUpper_toLower character) read
  · rintro ⟨small, same⟩
    rw [← digit?_toLower, same, digit?_lowerDigit value small]

/-! ## Pairs of characters -/

theorem natural?_singleton (character : Char) :
    Numeral.natural? 16 256 [character] = Numeral.digit? 16 character := by
  cases read : Numeral.digit? 16 character with
  | none => simp [Numeral.natural?, Numeral.digitsBelow, read]
  | some value =>
      have := (digit?_eq_some_iff.1 read).1
      simp [Numeral.natural?, Numeral.digitsBelow, read]
      omega

theorem natural?_pair (first second : Char) :
    Numeral.natural? 16 256 [first, second] =
      (Numeral.digit? 16 first).bind fun high =>
        (Numeral.digit? 16 second).map fun low => high * 16 + low := by
  cases readFirst : Numeral.digit? 16 first with
  | none => simp [Numeral.natural?, Numeral.digitsBelow, readFirst]
  | some high =>
      have := (digit?_eq_some_iff.1 readFirst).1
      cases readSecond : Numeral.digit? 16 second with
      | none => simp [Numeral.natural?, Numeral.digitsBelow, readFirst, readSecond]
      | some low =>
          have := (digit?_eq_some_iff.1 readSecond).1
          simp [Numeral.natural?, Numeral.digitsBelow, readFirst, readSecond]
          omega

/-- A plus sign in front of a digit stands for a zero. -/
def unsigned (character : Char) : Char :=
  if character = '+' then '0' else character

theorem below?_pair (first second : Char) :
    Numeral.below? 16 256 [first, second] =
      (Numeral.digit? 16 (unsigned first)).bind fun high =>
        (Numeral.digit? 16 second).map fun low => high * 16 + low := by
  by_cases sign : first = '+'
  · subst sign
    have zero : Numeral.digit? 16 (unsigned '+') = some 0 := by decide
    rw [zero, Option.bind_some]
    simpa [Numeral.below?] using natural?_singleton second
  · rw [unsigned, if_neg sign, ← natural?_pair]
    unfold Numeral.below?
    split
    · rename_i same
      exact absurd (List.cons.inj same).1 sign
    · rfl

theorem below?_pair_iff {first second : Char} {byte : UInt8} :
    (∃ value, Numeral.below? 16 256 [first, second] = some value ∧ value.toUInt8 = byte) ↔
      (unsigned first).toLower = lowerDigit (byte.toNat / 16) ∧
        second.toLower = lowerDigit (byte.toNat % 16) := by
  have small := byte.toNat_lt
  simp only [below?_pair, Option.bind_eq_some_iff, Option.map_eq_some_iff, digit?_eq_some_iff]
  constructor
  · rintro ⟨_, ⟨high, ⟨smallHigh, isFirst⟩, low, ⟨smallLow, isSecond⟩, rfl⟩, rfl⟩
    have sum : (high * 16 + low).toUInt8.toNat = high * 16 + low := by
      simp only [Nat.toUInt8_eq, UInt8.toNat_ofNat']
      omega
    rw [isFirst, isSecond, sum]
    constructor
    · congr 1
      omega
    · congr 1
      omega
  · rintro ⟨isFirst, isSecond⟩
    refine ⟨_, ⟨byte.toNat / 16, ⟨by omega, isFirst⟩, byte.toNat % 16, ⟨by omega, isSecond⟩, rfl⟩, ?_⟩
    rw [Nat.div_add_mod']
    simp

/-- The characters with a zero in place of every plus sign that is the first of a pair. -/
def withoutSigns : List Char → List Char
  | first :: second :: rest => unsigned first :: second :: withoutSigns rest
  | rest => rest

theorem withoutSigns_eq_self : ∀ {characters : List Char}, '+' ∉ characters →
    withoutSigns characters = characters
  | [], _ | [_], _ => rfl
  | first :: second :: rest, noSign => by
      simp only [List.mem_cons, not_or] at noSign
      rw [withoutSigns, unsigned, if_neg (Ne.symm noSign.1), withoutSigns_eq_self noSign.2.2]

@[simp] theorem toList_encode_nil : (encode []).toList = [] := by
  simp [encode]

@[simp] theorem toList_encode_cons (byte : UInt8) (bytes : List UInt8) :
    (encode (byte :: bytes)).toList =
      lowerDigit (byte.toNat / 16) :: lowerDigit (byte.toNat % 16) :: (encode bytes).toList := by
  simp [encode]

theorem pairs?_eq_some_iff : ∀ {characters : List Char} {bytes : List UInt8},
    pairs? characters = some bytes ↔
      (withoutSigns characters).map Char.toLower = (encode bytes).toList
  | [], [] => by simp [pairs?, withoutSigns]
  | [], _ :: _ => by simp [pairs?, withoutSigns]
  | [_], [] => by simp [pairs?, withoutSigns]
  | [_], _ :: _ => by simp [pairs?, withoutSigns]
  | first :: second :: rest, [] => by simp [pairs?, withoutSigns, Option.bind_eq_some_iff]
  | first :: second :: rest, byte :: bytes => by
      have pair := @below?_pair_iff first second byte
      have later := @pairs?_eq_some_iff rest bytes
      simp only [pairs?, withoutSigns, List.map_cons, toList_encode_cons, List.cons.injEq,
        ← and_assoc, ← pair, ← later]
      simp only [Option.bind_eq_bind, Option.bind_eq_some_iff, Option.some.injEq, List.cons.injEq]
      constructor
      · rintro ⟨value, readPair, others, readLater, same, rfl⟩
        exact ⟨⟨value, readPair, same⟩, readLater⟩
      · rintro ⟨⟨value, readPair, same⟩, readLater⟩
        exact ⟨value, readPair, bytes, readLater, same, rfl⟩

/-! ## Texts -/

def visible (text : String) : List Char :=
  text.toList.filter (!Text.isBlank ·)

theorem not_mem_encode (bytes : List UInt8) : '+' ∉ (encode bytes).toList := by
  induction bytes with
  | nil => simp
  | cons byte rest induction =>
      have small := byte.toNat_lt
      have noSign : ∀ value < 16, '+' ≠ lowerDigit value := by decide
      rw [toList_encode_cons, List.mem_cons, List.mem_cons, not_or, not_or]
      exact ⟨noSign _ (by omega), noSign _ (by omega), induction⟩

/-- A text is read as the bytes whose encoding it is, in either case and apart from white space and from
plus signs, each of which stands for a zero in front of a digit. So where the text itself is an encoding,
it is read as what it encodes; and where it has no plus sign, it is read only if it is an encoding. -/
theorem decode?_eq_some_iff (text : String) (bytes : List UInt8) :
    (decode? text = some bytes ↔
      (withoutSigns (visible text)).map Char.toLower = (encode bytes).toList) ∧
    ((visible text).map Char.toLower = (encode bytes).toList ↔
      decode? text = some bytes ∧ '+' ∉ visible text) := by
  have read : decode? text = some bytes ↔
      (withoutSigns (visible text)).map Char.toLower = (encode bytes).toList := pairs?_eq_some_iff
  refine ⟨read, ?_⟩
  rw [read]
  constructor
  · intro same
    have noSign : '+' ∉ visible text := by
      intro sign
      have inEncoding : '+' ∈ (encode bytes).toList := same ▸ List.mem_map_of_mem (f := Char.toLower) sign
      exact not_mem_encode bytes inEncoding
    rw [withoutSigns_eq_self noSign]
    exact ⟨same, noSign⟩
  · rintro ⟨same, noSign⟩
    rwa [withoutSigns_eq_self noSign] at same

/-- The text `+A` is read as the byte 10, and is the encoding of no bytes. -/
theorem decode?_signed :
    decode? "+A" = some [10] ∧
      ∀ bytes, (visible "+A").map Char.toLower ≠ (encode bytes).toList := by
  refine ⟨by decide +kernel, fun bytes same => ?_⟩
  have sign : '+' ∈ (visible "+A").map Char.toLower := by decide +kernel
  exact not_mem_encode bytes (same ▸ sign)

end MacroSandbox.Hex
