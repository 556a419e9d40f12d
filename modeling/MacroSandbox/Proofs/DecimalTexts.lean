import Mathlib.Data.List.TakeWhile
import MacroSandbox.Library.Pure
import MacroSandbox.Proofs.DigitTexts

/-! Decimal texts of integers, and what the readers of numbers make of them.

A reader takes white space away, looks for the marks of other notations and falls back to
floating-point numbers where it finds no integer. Main statement: `decimal_reads_back`, by which no
reader takes a way round for the text of an integer, so that every integer is read exactly. -/

namespace MacroSandbox

/-! ## White space around a text -/

namespace Text

inductive IsPadded (text : String) : String → Prop
  | around (before after : String)
      (blankBefore : ∀ character ∈ before.toList, isBlank character = true)
      (blankAfter : ∀ character ∈ after.toList, isBlank character = true) :
      IsPadded text (before ++ text ++ after)

theorem IsPadded.refl (text : String) : IsPadded text text := by
  simpa using @around text "" "" (by simp) (by simp)

theorem trimWhere_append {skip : Char → Bool} {before characters after : List Char}
    (skipBefore : ∀ character ∈ before, skip character = true)
    (skipAfter : ∀ character ∈ after, skip character = true)
    (kept : ∀ character ∈ characters, skip character = false) :
    trimWhere skip (before ++ characters ++ after) = characters := by
  rw [trimWhere, List.append_assoc, List.dropWhile_append_of_pos skipBefore]
  cases characters with
  | nil => simp [List.dropWhile_eq_nil_iff.2 skipAfter]
  | cons first rest =>
      have fromBehind : ∀ character ∈ after.reverse, skip character = true :=
        fun character member => skipAfter character (List.mem_reverse.1 member)
      have lastKept : (first :: rest).reverse.head?.any skip = false := by
        rw [List.head?_reverse, List.getLast?_eq_some_getLast (List.cons_ne_nil _ _)]
        exact kept _ (List.getLast_mem _)
      rw [List.cons_append, List.dropWhile_cons_of_neg (by simp [kept]), ← List.cons_append,
        List.reverse_append, List.dropWhile_append_of_pos fromBehind, dropWhile_eq_self lastKept,
        List.reverse_reverse]

variable {text padded : String}

theorem IsPadded.trim_eq (isPadded : IsPadded text padded)
    (noBlank : ∀ character ∈ text.toList, isBlank character = false) : trim padded = text := by
  cases isPadded with
  | around before after blankBefore blankAfter =>
      rw [← String.toList_inj, toList_trim, String.toList_append, String.toList_append]
      exact trimWhere_append blankBefore blankAfter noBlank

theorem IsPadded.filter_eq (isPadded : IsPadded text padded)
    (noBlank : ∀ character ∈ text.toList, isBlank character = false) :
    padded.toList.filter (!isBlank ·) = text.toList := by
  cases isPadded with
  | around before after blankBefore blankAfter =>
      have noneBefore : before.toList.filter (!isBlank ·) = [] := by simpa using blankBefore
      have noneAfter : after.toList.filter (!isBlank ·) = [] := by simpa using blankAfter
      have all : text.toList.filter (!isBlank ·) = text.toList := by simpa using noBlank
      simp [noneBefore, noneAfter, all]

theorem dropStart?_eq_none {start text : String} {mark : Char} (marked : mark ∈ start.toList)
    (absent : mark ∉ text.toList) : dropStart? start text = none := by
  rw [dropStart?, if_neg]
  intro starts
  exact absent ((startsWith_iff.1 starts).subset marked)

end Text

/-! ## Decimal texts -/

namespace Int

theorem forall_mem_toString {property : Char → Prop} (sign : property '-')
    (digits : ∀ value < 10, property (Nat.digitChar value)) (number : Int) :
    ∀ character ∈ (toString number).toList, property character := by
  have ofDigits : ∀ character ∈ Nat.toDigits 10 number.natAbs, property character := by
    intro character member
    obtain ⟨value, small, rfl⟩ := Numeral.exists_of_mem_toDigits (by decide) member
    exact digits value small
  rcases Int.lt_or_le number 0 with negative | positive
  · rw [toString_eq_of_neg negative, String.toList_ofList]
    exact List.forall_mem_cons.2 ⟨sign, ofDigits⟩
  · rw [toString_eq_of_nonneg positive, String.toList_ofList]
    exact ofDigits

theorem toList_toString_ne_nil (number : Int) : (toString number).toList ≠ [] := by
  rcases Int.lt_or_le number 0 with negative | positive
  · simp [toString_eq_of_neg negative]
  · simp [toString_eq_of_nonneg positive, Nat.toDigits_ne_nil]

theorem isBlank_of_mem_toString (number : Int) :
    ∀ character ∈ (toString number).toList, Text.isBlank character = false :=
  forall_mem_toString (by decide) (by decide) number

end Int

/-! ## Readers -/

theorem Numeral.int64?_toString (number : Int64) :
    int64? 10 (toString number.toInt) = some number := by
  have least := number.le_toInt
  have most := number.toInt_lt
  rcases Int.lt_or_le number.toInt 0 with negative | positive
  · have magnitude : -(number.toInt.natAbs : Int) = number.toInt := by omega
    rw [Int.toString_eq_of_neg negative, int64?_minus_toDigits (by decide) (by decide),
      if_pos (by omega), magnitude, Int64.ofInt_toInt]
  · have magnitude : (number.toInt.natAbs : Int) = number.toInt := by omega
    rw [Int.toString_eq_of_nonneg positive, int64?_toDigits (by decide) (by decide),
      if_pos (by omega), ← Int64.ofInt_eq_ofNat, magnitude, Int64.ofInt_toInt]

namespace Value

variable {number : Int64} {padded : String}

/-- The text of an integer is neither blank nor marked as a numeral of another radix. -/
theorem integerOfText?_of_isPadded (isPadded : Text.IsPadded (toString number.toInt) padded) :
    integerOfText? padded = some number := by
  have trimmed := isPadded.trim_eq (Int.isBlank_of_mem_toString _)
  have notEmpty : (toString number.toInt).isEmpty = false := by
    simpa using Int.toList_toString_ne_nil number.toInt
  have notNul : Text.all (· == '\x00') (toString number.toInt) = false := by
    have differs : ∀ character ∈ (toString number.toInt).toList, character ≠ '\x00' :=
      Int.forall_mem_toString (by decide) (by decide) _
    obtain ⟨first, member⟩ := List.exists_mem_of_ne_nil _ (Int.toList_toString_ne_nil number.toInt)
    rw [Text.all_eq, List.all_eq_false]
    exact ⟨first, member, by simpa using differs first member⟩
  have noMark : '&' ∉ (Text.asciiLower (toString number.toInt)).toList := by
    have differs : ∀ character ∈ (toString number.toInt).toList, character.toLower ≠ '&' :=
      Int.forall_mem_toString (by decide) (by decide) _
    simpa [Text.toList_asciiLower] using differs
  have unmarked {start : String} (marked : '&' ∈ start.toList) :=
    Text.dropStart?_eq_none marked noMark
  unfold integerOfText?
  dsimp only
  rw [trimmed, notEmpty, notNul, unmarked (by decide), unmarked (by decide)]
  dsimp only
  rw [Numeral.int64?_toString]
  rfl

theorem toInteger_of_isPadded (isPadded : Text.IsPadded (toString number.toInt) padded) :
    (text padded).toInteger = number := by
  rw [toInteger, integerOfText?_of_isPadded isPadded, Option.getD_some]

theorem toNumber_of_isPadded (isPadded : Text.IsPadded (toString number.toInt) padded) :
    (text padded).toNumber = integer number := by
  have trimmed := isPadded.trim_eq (Int.isBlank_of_mem_toString _)
  have noPoint : Text.any (· == '.') (toString number.toInt) = false := by
    have differs : ∀ character ∈ (toString number.toInt).toList, character ≠ '.' :=
      Int.forall_mem_toString (by decide) (by decide) _
    rw [Text.any_eq]
    simpa using differs
  unfold toNumber
  dsimp only
  rw [trimmed, noPoint, integerOfText?_of_isPadded (.refl _)]
  rfl

end Value

/-- All that is left of the text of an integer is the integer: after its sign stand digits only. -/
theorem TextFunction.leadingNumber_of_isPadded {number : Int64} {padded : String}
    (isPadded : Text.IsPadded (toString number.toInt) padded) :
    leadingNumber padded = toString number.toInt := by
  have digits : ∀ character ∈ Nat.toDigits 10 number.toInt.natAbs,
      (character.isDigit || character == '.') = true := by
    intro character member
    rw [Nat.isDigit_of_mem_toDigits (by decide) (by decide) member, Bool.true_or]
  unfold leadingNumber
  rw [isPadded.filter_eq (Int.isBlank_of_mem_toString _)]
  rcases Int.lt_or_le number.toInt 0 with negative | positive
  · rw [Int.toString_eq_of_neg negative, String.toList_ofList]
    dsimp only
    rw [List.takeWhile_eq_self_iff.2 digits]
    rfl
  · rw [Int.toString_eq_of_nonneg positive, String.toList_ofList]
    cases all : Nat.toDigits 10 number.toInt.natAbs with
    | nil => exact absurd all Nat.toDigits_ne_nil
    | cons first rest =>
        rw [all] at digits
        have isPart := List.forall_mem_cons.1 digits
        simp only [isPart.1, Bool.true_or, if_true, List.takeWhile_eq_self_iff.2 isPart.2]

namespace ScalarRoutine

variable {number : Int64} {padded : String}

theorem compute_toWhole_of_isPadded (heap : Heap)
    (isPadded : Text.IsPadded (toString number.toInt) padded) :
    toWhole.compute heap [.text padded] = .ok (.integer number) := by
  have whole : wholeNumber (.text padded) = number := by
    rw [wholeNumber, Value.toNumber_of_isPadded isPadded]
    rfl
  rw [← whole]
  rfl

theorem compute_leadingNumber_of_isPadded (heap : Heap)
    (isPadded : Text.IsPadded (toString number.toInt) padded) :
    leadingNumber.compute heap [.text padded] = .ok (.integer number) := by
  rw [← Value.toNumber_of_isPadded (.refl (toString number.toInt)),
    ← TextFunction.leadingNumber_of_isPadded isPadded]
  rfl

end ScalarRoutine

/-! ## The library -/

namespace Library

def scalarValue? (library : Library) (name : String) (heap : Heap) (arguments : List Value) :
    Option (Except Fault Value) := do
  let function ← library.get? name
  match function.routine with
  | .pure (.scalar routine) => some (routine.compute heap arguments)
  | _ => none

/-- Every function of the catalog is found under its name, so no two of them have one name. -/
theorem get?_standard : ∀ function ∈ pureCatalog, standard.get? function.name = some function := by
  decide +kernel

theorem scalarValue?_standard {name : String} (routine : ScalarRoutine)
    (listed : ∃ function ∈ pureCatalog,
      function.name = name ∧ function.routine = .pure (.scalar routine))
    (heap : Heap) (arguments : List Value) :
    standard.scalarValue? name heap arguments = some (routine.compute heap arguments) := by
  obtain ⟨function, member, rfl, isRoutine⟩ := listed
  simp [scalarValue?, get?_standard function member, isRoutine]

end Library

/-- The text that `CStr` makes of an integer is read as the integer wherever a text can be used as a
number: by the coercions, by the declared type `Integer`, and by `CInt`, `CLng` and `Val`, with
whatever white space around it. -/
theorem decimal_reads_back (heap : Heap) (number : Int64) :
    ∃ decimal,
      Library.standard.scalarValue? "CStr" heap [.integer number] = some (.ok (.text decimal)) ∧
        ∀ padded, Text.IsPadded decimal padded →
          (Value.text padded).toInteger = number ∧
            (Value.text padded).toNumber = .integer number ∧
            heap.coerce .integer (.text padded) = .integer number ∧
            ∀ name ∈ ["CInt", "CLng", "Val"],
              Library.standard.scalarValue? name heap [.text padded] =
                some (.ok (.integer number)) := by
  refine ⟨_, Library.scalarValue?_standard .toText (by decide) heap _, fun padded isPadded => ?_⟩
  have asInteger := Value.toInteger_of_isPadded isPadded
  have whole := ScalarRoutine.compute_toWhole_of_isPadded heap isPadded
  have leading := ScalarRoutine.compute_leadingNumber_of_isPadded heap isPadded
  refine ⟨asInteger, Value.toNumber_of_isPadded isPadded, congrArg Value.integer asInteger, ?_⟩
  intro name member
  simp only [List.mem_cons, List.not_mem_nil, or_false] at member
  rcases member with rfl | rfl | rfl
  · rw [Library.scalarValue?_standard .toWhole (by decide), whole]
  · rw [Library.scalarValue?_standard .toWhole (by decide), whole]
  · rw [Library.scalarValue?_standard .leadingNumber (by decide), leading]

/-- The least integer, whose magnitude is no integer, between a no-break space, a tabulator and an
ideographic space. -/
theorem decimal_reads_back_least :
    let least : Int64 := -9223372036854775808
    let padded := "\u00a0\t" ++ "-9223372036854775808" ++ "\u3000"
    Library.standard.scalarValue? "CStr" {} [.integer least] =
        some (.ok (.text "-9223372036854775808")) ∧
      Text.IsPadded "-9223372036854775808" padded ∧
      (Value.text padded).toInteger = least ∧ (Value.text padded).toNumber = .integer least ∧
      Heap.coerce {} .integer (.text padded) = .integer least ∧
      "Val" ∈ ["CInt", "CLng", "Val"] ∧
      Library.standard.scalarValue? "Val" {} [.text padded] = some (.ok (.integer least)) := by
  intro least padded
  have isPadded : Text.IsPadded "-9223372036854775808" padded :=
    .around _ _ (by simp [Text.isBlank]) (by simp [Text.isBlank])
  have written : Library.standard.scalarValue? "CStr" {} [.integer least] =
      some (.ok (.text "-9223372036854775808")) :=
    Library.scalarValue?_standard .toText (by decide) {} _
  obtain ⟨decimal, isDecimal, reads⟩ := decimal_reads_back {} least
  have same : decimal = "-9223372036854775808" :=
    Value.text.inj (Except.ok.inj (Option.some.inj (isDecimal.symm.trans written)))
  rw [same] at reads
  obtain ⟨asInteger, asNumber, coerced, named⟩ := reads padded isPadded
  exact ⟨written, isPadded, asInteger, asNumber, coerced, by decide, named "Val" (by decide)⟩

end MacroSandbox
