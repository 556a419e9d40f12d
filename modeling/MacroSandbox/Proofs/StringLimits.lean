import MacroSandbox.Proofs.Copies
import MacroSandbox.Proofs.NumberLengths
import MacroSandbox.Proofs.TextSizes

/-! Which operations keep strings within the limit.

Joining two operands is refused where the result would be too large. Of the library functions only those
that repeat a character look at the limit, and they count characters where strings are measured in bytes.
Five functions can therefore make strings that are too large of arguments that are not, and so can all
that read a list as a text, for that is the text of its items one after the other. -/

namespace MacroSandbox

namespace Heap

/-! ## The strings in a value -/

/-- A string that a value holds: a text, the class of an object, a key of a map, or a string in an item
of a list or in an entry of a map. -/
inductive Holds (heap : Heap) : Value → String → Prop
  | text (content : String) : Holds heap (.text content) content
  | object (identity : Nat) (className : String) : Holds heap (.object identity className) className
  | item {place : Nat} {item : Value} {held : String} (member : item ∈ heap.list place)
      (inside : Holds heap item held) : Holds heap (.list place) held
  | key {place : Nat} {key : String} (member : key ∈ heap.map place) : Holds heap (.map place) key
  | entry {place : Nat} {key held : String} {item : Value}
      (found : (heap.map place)[key]? = some item) (inside : Holds heap item held) :
      Holds heap (.map place) held

def StringsFit (heap : Heap) (value : Value) : Prop :=
  ∀ held, heap.Holds value held → held.utf8ByteSize ≤ maxAllocation

variable {heap : Heap}

@[simp] theorem stringsFit_text_iff {content : String} :
    heap.StringsFit (.text content) ↔ content.utf8ByteSize ≤ maxAllocation := by
  refine ⟨fun fits => fits content (.text content), fun small held holds => ?_⟩
  cases holds
  exact small

@[simp] theorem stringsFit_integer (value : Int64) : heap.StringsFit (.integer value) := by
  rintro held ⟨⟩

@[simp] theorem stringsFit_float (value : Float) : heap.StringsFit (.float value) := by
  rintro held ⟨⟩

@[simp] theorem stringsFit_boolean (value : Bool) : heap.StringsFit (.boolean value) := by
  rintro held ⟨⟩

theorem stringsFit_toNumber (value : Value) : heap.StringsFit value.toNumber := by
  unfold Value.toNumber
  dsimp only
  repeat' split
  all_goals simp

theorem utf8ByteSize_le_of_short {text : String} (short : text.length ≤ 1610) :
    text.utf8ByteSize ≤ maxAllocation :=
  calc text.utf8ByteSize
      ≤ 4 * text.length := Text.utf8ByteSize_le_four_mul_length text
    _ ≤ 4 * 1610 := Nat.mul_le_mul_left 4 short
    _ ≤ maxAllocation := by decide

/-- A list is read as the text of its items, which may be far larger than each of them. The text of any
other value is one that it holds, or that of a number or of a truth value. -/
theorem utf8ByteSize_text_le {value : Value} (fits : heap.StringsFit value)
    (noList : ∀ place, value ≠ .list place) :
    (heap.text value).utf8ByteSize ≤ maxAllocation := by
  cases value with
  | integer value =>
      exact utf8ByteSize_le_of_short (Nat.le_trans (Int64.length_toString_le value) (by decide))
  | float value => exact utf8ByteSize_le_of_short (length_floatText_le value)
  | text content => exact fits content (.text content)
  | boolean value =>
      show (Value.booleanText value).utf8ByteSize ≤ maxAllocation
      cases value <;> decide
  | list place => exact absurd rfl (noList place)
  | object identity className => exact fits className (.object identity className)
  | map | null | unresolved => exact Nat.zero_le _

theorem holds_of_newList {items : Array Value} {value : Value} {held : String}
    (holds : (heap.newList items).2.Holds value held) :
    heap.Holds value held ∨ ∃ item ∈ items, heap.Holds item held := by
  induction holds with
  | text content => exact .inl (.text content)
  | object identity className => exact .inl (.object identity className)
  | key member => exact .inl (.key member)
  | entry found _ induction => exact induction.imp_left (.entry found)
  | item member _ induction =>
      rcases induction with before | inList
      · simp only [newList, list, Array.getD_eq_getD_getElem?, Array.getElem?_push] at member
        split at member
        · exact .inr ⟨_, member, before⟩
        · refine .inl (.item ?_ before)
          simpa only [list, Array.getD_eq_getD_getElem?] using member
      · exact .inr inList

theorem stringsFit_newList {items : Array Value} (fit : ∀ item ∈ items, heap.StringsFit item) :
    (heap.newList items).2.StringsFit (heap.newList items).1 := by
  intro held holds
  rcases holds_of_newList holds with before | ⟨item, member, inside⟩
  · cases before with
    | item member _ => simp [list] at member
  · exact fit item member held inside

end Heap

variable {heap : Heap} {value : Value}

/-! ## Operators -/

theorem stringsFit_of_joinTexts {left right : String} (joined : joinTexts left right = .ok value) :
    heap.StringsFit value := by
  unfold joinTexts at joined
  dsimp only at joined
  split at joined
  · cases joined
  · rename_i small
    cases joined
    rw [Heap.stringsFit_text_iff, String.utf8ByteSize_append]
    exact Nat.not_lt.1 small

theorem stringsFit_arithmetic (onIntegers : Int → Int → Int) (onFloats : Float → Float → Float)
    (left right : Value) : heap.StringsFit (arithmetic onIntegers onFloats left right) := by
  unfold arithmetic
  dsimp only
  repeat' split
  all_goals simp

theorem stringsFit_bitwise (onTruths : Bool → Bool → Bool) (onIntegers : Int64 → Int64 → Int64)
    (left right : Value) : heap.StringsFit (bitwise onTruths onIntegers left right) := by
  unfold bitwise
  split <;> simp

theorem BinaryOperator.stringsFit_of_apply {operator : BinaryOperator} {left right : Value}
    (applied : operator.apply heap left right = .ok value) : heap.StringsFit value := by
  have whole {compute : Int64 → Int64 → Int64}
      (divided : wholeDivision compute left right = .ok value) : heap.StringsFit value := by
    unfold wholeDivision at divided
    dsimp only at divided
    split at divided <;> cases divided
    exact Heap.stringsFit_integer _
  cases operator
  case add =>
    simp only [BinaryOperator.apply] at applied
    split at applied
    · exact stringsFit_of_joinTexts applied
    · split at applied <;> cases applied
      exact stringsFit_arithmetic _ _ _ _
  case concatenate => exact stringsFit_of_joinTexts applied
  case integerDivide => exact whole applied
  case modulo => exact whole applied
  case divide =>
    simp only [BinaryOperator.apply] at applied
    split at applied <;> cases applied
    exact Heap.stringsFit_float _
  case subtract =>
    cases applied
    exact stringsFit_arithmetic _ _ _ _
  case multiply =>
    cases applied
    exact stringsFit_arithmetic _ _ _ _
  case power =>
    cases applied
    exact Heap.stringsFit_float _
  case conjunction | disjunction | exclusiveDisjunction =>
    cases applied
    exact stringsFit_bitwise _ _ _ _
  all_goals
    simp only [BinaryOperator.apply, Except.ok.injEq] at applied
    rw [← applied]
    exact Heap.stringsFit_boolean _

/-! ## Arguments -/

variable {arguments : List Value}

theorem stringsFit_argument (fit : ∀ value ∈ arguments, heap.StringsFit value) (index : Nat) :
    heap.StringsFit (argument arguments index) := by
  rw [argument, List.getD_eq_getElem?_getD]
  cases given : arguments[index]? with
  | none => rintro held ⟨⟩
  | some value => exact fit value (List.mem_of_getElem? given)

/-- The text of an argument is within the limit if it holds no string that is too large, and if it is
no list whose items are too large together. -/
theorem utf8ByteSize_text_argument_le (fit : ∀ value ∈ arguments, heap.StringsFit value)
    {index : Nat} (lists : ∀ place, argument arguments index = .list place →
      (heap.text (.list place)).utf8ByteSize ≤ maxAllocation) :
    (heap.text (argument arguments index)).utf8ByteSize ≤ maxAllocation := by
  by_cases isList : ∃ place, argument arguments index = .list place
  · obtain ⟨place, same⟩ := isList
    rw [same]
    exact lists place same
  · exact Heap.utf8ByteSize_text_le (stringsFit_argument fit index) fun place same =>
      isList ⟨place, same⟩

/-! ## Functions -/

namespace ScalarRoutine

def builds : ScalarRoutine → Bool
  | .lowerCase | .upperCase | .replace | .join | .repeated => true
  | _ => false

def cuts : ScalarRoutine → Bool
  | .middle | .left | .right | .trimBoth | .trimLeft | .trimRight | .reverse | .toText => true
  | _ => false

def builtSize (heap : Heap) (arguments : List Value) : ScalarRoutine → Nat
  | .lowerCase =>
      String.utf8Len ((heap.text (argument arguments 0)).toList.flatMap Text.lowerCharacter)
  | .upperCase =>
      String.utf8Len ((heap.text (argument arguments 0)).toList.flatMap Text.upperCharacter)
  | .replace =>
      let text := heap.text (argument arguments 0)
      let pattern := heap.text (argument arguments 1)
      let replacement := heap.text (argument arguments 2)
      text.utf8ByteSize + Text.cutCount pattern text * replacement.utf8ByteSize -
        Text.cutCount pattern text * pattern.utf8ByteSize
  | .join =>
      let texts := itemTexts heap (argument arguments 0)
      (texts.map String.utf8ByteSize).sum +
        (texts.length - 1) * (delimiter heap arguments).utf8ByteSize
  | .repeated =>
      (argument arguments 0).toInteger.toInt.toNat *
        (fillCharacter (argument arguments 1)).utf8Size
  | _ => 0

theorem repeatCharacter_eq_ok_iff {character : Char} {count : Int64} :
    repeatCharacter character count = .ok value ↔
      value = .text ("".pushn character count.toInt.toNat) ∧
        count.toInt.toNat ≤ maxAllocation := by
  unfold repeatCharacter allocation?
  dsimp only
  by_cases small : count.toInt.toNat ≤ maxAllocation
  · rw [if_pos small, Except.ok.injEq, eq_comm, and_iff_left small]
  · rw [if_neg small]
    exact iff_of_false (by simp) fun allowed => small allowed.2

variable {routine : ScalarRoutine}

theorem exists_text_of_builds (builds : routine.builds = true)
    (computed : routine.compute heap arguments = .ok value) :
    ∃ content, value = .text content ∧
      content.utf8ByteSize = routine.builtSize heap arguments := by
  cases routine
  case lowerCase => exact ⟨_, (Except.ok.inj computed).symm, Text.utf8ByteSize_toLower _⟩
  case upperCase => exact ⟨_, (Except.ok.inj computed).symm, Text.utf8ByteSize_toUpper _⟩
  case replace =>
    refine ⟨_, (Except.ok.inj computed).symm, ?_⟩
    rw [builtSize, ← Text.utf8ByteSize_replace, Nat.add_sub_cancel]
  case join => exact ⟨_, (Except.ok.inj computed).symm, Text.utf8ByteSize_intercalate _ _⟩
  case repeated =>
    refine ⟨_, (repeatCharacter_eq_ok_iff.1 computed).1, ?_⟩
    rw [Text.utf8ByteSize_pushn, String.utf8ByteSize_empty, Nat.zero_add, builtSize]
  all_goals cases builds

/-- What the other functions make is a number, a truth value, a part of a text, or a short text. -/
theorem stringsFit_of_not_builds (noBuilder : routine.builds = false)
    (first : routine.cuts = true →
      (heap.text (argument arguments 0)).utf8ByteSize ≤ maxAllocation)
    (computed : routine.compute heap arguments = .ok value) : heap.StringsFit value := by
  have part {text : String} (cuts : routine.cuts = true)
      (result : (.ok (.text text) : Except Fault Value) = .ok value)
      (smaller : text.utf8ByteSize ≤ (heap.text (argument arguments 0)).utf8ByteSize) :
      heap.StringsFit value := by
    rw [← Except.ok.inj result, Heap.stringsFit_text_iff]
    exact Nat.le_trans smaller (first cuts)
  cases routine
  case lowerCase | upperCase | replace | join | repeated => cases noBuilder
  case left => exact part rfl computed (Text.utf8ByteSize_takeFirst_le _ _)
  case right => exact part rfl computed (Text.utf8ByteSize_sliceFrom_le _ _)
  case trimBoth => exact part rfl computed (Text.utf8ByteSize_trimMatches_le _ _)
  case trimLeft => exact part rfl computed (Text.utf8ByteSize_trimStartMatches_le _ _)
  case trimRight => exact part rfl computed (Text.utf8ByteSize_trimEndMatches_le _ _)
  case reverse => exact part rfl computed (Nat.le_of_eq (TextFunction.utf8ByteSize_reverse _))
  case toText => exact part rfl computed (Nat.le_refl _)
  case middle =>
    simp only [compute] at computed
    cases cut : TextFunction.middle (heap.text (argument arguments 0))
      (argument arguments 1).toInteger.toInt
      ((givenArgument? arguments 2).map fun value => value.toInteger.toInt) with
    | error fault => simp [cut, Except.map] at computed
    | ok text =>
        rw [cut] at computed
        exact part rfl computed (TextFunction.utf8ByteSize_le_of_middle cut)
  case spaces =>
    obtain ⟨rfl, small⟩ := repeatCharacter_eq_ok_iff.1 computed
    rw [Heap.stringsFit_text_iff, Text.utf8ByteSize_pushn, String.utf8ByteSize_empty,
      Nat.zero_add]
    exact Nat.le_trans (Nat.le_of_eq (Nat.mul_one _)) small
  case character =>
    simp only [compute] at computed
    split at computed <;> cases computed
    refine Heap.stringsFit_text_iff.2 (Heap.utf8ByteSize_le_of_short ?_)
    rw [String.length_ofList, List.length_singleton]
    decide
  case hexadecimal =>
    rw [← Except.ok.inj computed, Heap.stringsFit_text_iff]
    exact Heap.utf8ByteSize_le_of_short (Nat.le_trans (Hex.length_ofInteger_le _) (by decide))
  case leadingNumber =>
    rw [← Except.ok.inj computed]
    exact Heap.stringsFit_toNumber _
  case absolute =>
    rw [← Except.ok.inj computed]
    unfold magnitude
    split <;> simp
  case characterCode | toByte =>
    simp only [compute] at computed
    split at computed <;> cases computed
    exact Heap.stringsFit_integer _
  case upperBound =>
    simp only [compute, lastIndex] at computed
    split at computed <;> cases computed <;> exact Heap.stringsFit_integer _
  all_goals
    rw [← Except.ok.inj computed]
    simp

theorem builtSize_of_not_builds (noBuilder : routine.builds = false) :
    routine.builtSize heap arguments = 0 := by
  cases routine <;> first | rfl | cases noBuilder

theorem stringsFit_iff
    (first : routine.cuts = true →
      (heap.text (argument arguments 0)).utf8ByteSize ≤ maxAllocation)
    (computed : routine.compute heap arguments = .ok value) :
    heap.StringsFit value ↔ routine.builtSize heap arguments ≤ maxAllocation := by
  cases builder : routine.builds with
  | true =>
      obtain ⟨content, rfl, size⟩ := exists_text_of_builds builder computed
      rw [Heap.stringsFit_text_iff, size]
  | false =>
      rw [builtSize_of_not_builds builder]
      exact iff_of_true (stringsFit_of_not_builds builder first computed) (Nat.zero_le _)

end ScalarRoutine

namespace PureRoutine

def cuts : PureRoutine → Bool
  | .scalar routine => routine.cuts
  | .split => true
  | .array => false

def builtSize (heap : Heap) (arguments : List Value) : PureRoutine → Nat
  | .scalar routine => routine.builtSize heap arguments
  | .split | .array => 0

theorem stringsFit_iff {routine : PureRoutine} {later : Heap}
    (fit : ∀ argument ∈ arguments, heap.StringsFit argument)
    (lists : routine.cuts = true → ∀ place, argument arguments 0 = .list place →
      (heap.text (.list place)).utf8ByteSize ≤ maxAllocation)
    (applied : routine.apply arguments heap = (.ok value, later)) :
    later.StringsFit value ↔ routine.builtSize heap arguments ≤ maxAllocation := by
  have first (cuts : routine.cuts = true) := utf8ByteSize_text_argument_le fit (lists cuts)
  cases routine with
  | scalar routine =>
      obtain ⟨computed, rfl⟩ := Prod.mk.injEq .. ▸ applied
      exact ScalarRoutine.stringsFit_iff first computed
  | array =>
      cases applied
      refine iff_of_true (Heap.stringsFit_newList fun item member => ?_) (Nat.zero_le _)
      exact fit item (by simpa using member)
  | split =>
      cases applied
      refine iff_of_true (Heap.stringsFit_newList fun item member => ?_) (Nat.zero_le _)
      obtain ⟨piece, isPiece, rfl⟩ := Array.mem_map.1 member
      exact Heap.stringsFit_text_iff.2
        (Nat.le_trans (Text.utf8ByteSize_le_of_mem_splitOn isPiece) (first rfl))

end PureRoutine

/-- No binary operation makes a string that is too large. A function that looks at nothing but its
arguments, none of which holds a string that is too large, makes one exactly where the text that it
builds is too large by its size. This leaves out parts of a list whose text is too large itself. -/
theorem stringsFit_results (heap : Heap) :
    (∀ (operator : BinaryOperator) (left right value : Value),
      operator.apply heap left right = .ok value → heap.StringsFit value) ∧
    ∀ (routine : PureRoutine) (arguments : List Value) (value : Value) (later : Heap),
      (∀ argument ∈ arguments, heap.StringsFit argument) →
      (routine.cuts = true → ∀ place, argument arguments 0 = .list place →
        (heap.text (.list place)).utf8ByteSize ≤ maxAllocation) →
      routine.apply arguments heap = (.ok value, later) →
      (later.StringsFit value ↔ routine.builtSize heap arguments ≤ maxAllocation) :=
  ⟨fun _ _ _ _ applied => BinaryOperator.stringsFit_of_apply applied,
    fun _ _ _ _ fit lists applied => PureRoutine.stringsFit_iff fit lists applied⟩

/-- A list of two texts can be joined with a third one and read as a text, and three characters of two
bytes each can be made. -/
theorem stringsFit_results_list :
    let heap : Heap := { lists := #[#[.text "a", .text "b"]] }
    ∃ joined read repeated,
      (BinaryOperator.concatenate.apply heap (.list 0) (.text "c") = .ok joined ∧
        heap.StringsFit joined) ∧
      ((PureRoutine.scalar .toText).apply [.list 0] heap = (.ok read, heap) ∧
        heap.StringsFit read) ∧
      ((PureRoutine.scalar .repeated).apply [.integer 3, .text "é"] heap = (.ok repeated, heap) ∧
        heap.StringsFit repeated) := by
  intro heap
  have results := stringsFit_results heap
  have joined : BinaryOperator.concatenate.apply heap (.list 0) (.text "c") = .ok (.text "abc") :=
    rfl
  have read : (PureRoutine.scalar .toText).apply [.list 0] heap = (.ok (.text "ab"), heap) := rfl
  have repeated : (PureRoutine.scalar .repeated).apply [.integer 3, .text "é"] heap =
      (.ok (.text "ééé"), heap) := rfl
  have items : heap.StringsFit (.list 0) := by
    rintro held (_ | _ | @⟨_, item, _, member, inside⟩)
    have : item = .text "a" ∨ item = .text "b" := by simpa [heap, Heap.list] using member
    rcases this with rfl | rfl <;>
      · cases inside
        decide
  refine ⟨_, _, _, ⟨joined, results.1 _ _ _ _ joined⟩, ⟨read, (results.2 _ _ _ _ ?_ ?_ read).2 ?_⟩,
    repeated, (results.2 _ _ _ _ ?_ ?_ repeated).2 ?_⟩
  · simpa using items
  · rintro - place same
    cases same
    decide
  · exact Nat.zero_le _
  · simp
    decide
  · rintro ⟨⟩
  · decide

/-- As many characters as the limit allows are too large if each of them takes two bytes. -/
theorem repeated_exceeds_limit :
    ∃ value later,
      (PureRoutine.scalar .repeated).apply [.integer 16777216, .text "é"] {} = (.ok value, later) ∧
      (∀ argument ∈ [Value.integer 16777216, .text "é"], Heap.StringsFit {} argument) ∧
      ¬ later.StringsFit value := by
  have fit : ∀ argument ∈ [Value.integer 16777216, .text "é"], Heap.StringsFit {} argument := by
    simp
    decide
  obtain ⟨value, repeated⟩ : ∃ value,
      ScalarRoutine.repeatCharacter (ScalarRoutine.fillCharacter (.text "é")) 16777216 = .ok value :=
    ⟨_, ScalarRoutine.repeatCharacter_eq_ok_iff.2 ⟨rfl, by decide⟩⟩
  have applied : (PureRoutine.scalar .repeated).apply [.integer 16777216, .text "é"] {} =
      (.ok value, {}) := by
    rw [← repeated]
    rfl
  refine ⟨value, _, applied, fit, ?_⟩
  rw [PureRoutine.stringsFit_iff fit (by rintro ⟨⟩) applied]
  decide

end MacroSandbox
