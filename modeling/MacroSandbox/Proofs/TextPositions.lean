import MacroSandbox.Library.Pure
import Mathlib

/-! Positions in texts, as emulated code counts them: parts that are read, parts that are
overwritten, and occurrences of other texts.

`Mid` reads and overwrites parts, and `InStr` looks for them. What they say about one position agrees
at all boundaries: before the start of a text, one past its end, and further out. -/

namespace MacroSandbox

namespace TextFunction

/-! ## Parts that are read -/

theorem middle_some {start : Int} (positive : 1 ≤ start) (text : String) (count : Int) :
    middle text start (some count) =
      .ok (String.ofList ((text.toList.drop (start - 1).toNat).take count.toNat)) := by
  rw [middle, if_neg (by omega)]
  refine congrArg Except.ok (String.toList_inj.1 ?_)
  rw [Text.toList_slice, String.toList_ofList]

theorem middle_none {start : Int} (positive : 1 ≤ start) (text : String) :
    middle text start none = .ok (String.ofList (text.toList.drop (start - 1).toNat)) := by
  rw [middle, if_neg (by omega)]
  refine congrArg Except.ok (String.toList_inj.1 ?_)
  rw [Text.toList_sliceFrom, String.toList_ofList]

/-! ## Parts that are overwritten -/

def spliced (characters replacement : List Char) (offset count : Nat) : List Char :=
  characters.take offset ++ replacement.take count ++ characters.drop (offset + count)

section Spliced

variable {characters replacement other : List Char} {offset count : Nat}

theorem length_spliced (enough : count ≤ replacement.length)
    (inside : offset + count ≤ characters.length) :
    (spliced characters replacement offset count).length = characters.length := by
  simp only [spliced, List.length_append, List.length_take, List.length_drop]
  omega

theorem getElem?_spliced_of_outside (enough : count ≤ replacement.length)
    (inside : offset + count ≤ characters.length) {index : Nat}
    (outside : index < offset ∨ offset + count ≤ index) :
    (spliced characters replacement offset count)[index]? = characters[index]? := by
  have front : (characters.take offset ++ replacement.take count).length = offset + count := by
    simp only [List.length_append, List.length_take]
    omega
  rcases outside with before | after
  · rw [spliced, List.append_assoc,
      List.getElem?_append_left (by simp only [List.length_take]; omega),
      List.getElem?_take_of_lt before]
  · rw [spliced, List.getElem?_append_right (by omega), front, List.getElem?_drop]
    congr 1
    omega

theorem take_drop_spliced (enough : count ≤ replacement.length)
    (inside : offset + count ≤ characters.length) :
    ((spliced characters replacement offset count).drop offset).take count =
      replacement.take count := by
  have front : (characters.take offset).length = offset := by
    simp only [List.length_take]
    omega
  have part : (replacement.take count).length = count := by
    simp only [List.length_take]
    omega
  rw [spliced, List.append_assoc, List.drop_left' front, List.take_left' part]

theorem spliced_self : spliced characters (characters.drop offset) offset count = characters := by
  rw [spliced, ← List.take_add, List.take_append_drop]

theorem spliced_spliced (enough : count ≤ other.length)
    (inside : offset + count ≤ characters.length) :
    spliced (spliced characters other offset count) replacement offset count =
      spliced characters replacement offset count := by
  have front : (characters.take offset).length = offset := by
    simp only [List.length_take]
    omega
  have both : (characters.take offset ++ other.take count).length = offset + count := by
    simp only [List.length_append, List.length_take]
    omega
  have before : (spliced characters other offset count).take offset = characters.take offset := by
    rw [spliced, List.append_assoc, List.take_left' front]
  have after : (spliced characters other offset count).drop (offset + count) =
      characters.drop (offset + count) := by
    rw [spliced, List.drop_left' both]
  rw [spliced, before, after, spliced]

end Spliced

/-- How many characters are overwritten: as many as the replacement has and as follow in the text,
and at most as many as are asked for. -/
def overwrittenCount (text : String) (start : Int) (count : Option Int) (replacement : String) :
    Int :=
  let room := min (replacement.length : Int) (text.length - start + 1)
  match count with
  | some count => min room (max count 0)
  | none => room

section Overwrite

variable {text replacement : String} {start : Int} {count : Option Int}

theorem overwrittenCount_bounds (positive : 1 ≤ start) (within : start ≤ text.length + 1) :
    (overwrittenCount text start count replacement).toNat ≤ replacement.toList.length ∧
      (start - 1).toNat + (overwrittenCount text start count replacement).toNat ≤
        text.toList.length := by
  cases count <;> simp only [overwrittenCount, String.length_toList] <;> omega

theorem overwrite_of_outside (outside : start < 1 ∨ text.length + 1 < start) :
    ∃ fault, overwrite text start count replacement = .error fault := by
  unfold overwrite
  split
  · exact ⟨_, rfl⟩
  · rename_i positive
    rw [if_pos (by omega)]
    exact ⟨_, rfl⟩

theorem overwrite_of_within (positive : 1 ≤ start) (within : start ≤ text.length + 1) :
    overwrite text start count replacement =
      .ok (String.ofList (spliced text.toList replacement.toList (start - 1).toNat
        (overwrittenCount text start count replacement).toNat)) := by
  rw [overwrite, if_neg (by omega), if_neg (by omega)]
  refine congrArg Except.ok (String.toList_inj.1 ?_)
  rw [String.toList_ofList, spliced]
  cases count with
  | none =>
      have size : min replacement.length (text.length - (start - 1).toNat) =
          (overwrittenCount text start none replacement).toNat := by
        simp only [overwrittenCount]
        omega
      simp only [size, String.toList_append, Text.toList_takeFirst, Text.toList_sliceFrom]
  | some count =>
      have size : min (min replacement.length (text.length - (start - 1).toNat)) count.toNat =
          (overwrittenCount text start (some count) replacement).toNat := by
        simp only [overwrittenCount]
        omega
      simp only [size, String.toList_append, Text.toList_takeFirst, Text.toList_sliceFrom]

theorem overwrittenCount_congr {other changed : String} (sameSize : other.length = text.length)
    (sameRoom : changed.length = replacement.length) :
    overwrittenCount other start count changed =
      overwrittenCount text start count replacement := by
  simp only [overwrittenCount, sameSize, sameRoom]

/-- Where a write fails, it fails before it looks at what is to be written. -/
theorem overwrite_congr_of_outside (outside : start < 1 ∨ text.length + 1 < start)
    (other : String) :
    overwrite text start count other = overwrite text start count replacement := by
  unfold overwrite
  split
  · rfl
  · rw [if_pos (by omega), if_pos (by omega)]

theorem overwrite_overwrite {other : String} (sameSize : other.length = replacement.length) :
    (overwrite text start count other).bind (overwrite · start count replacement) =
      overwrite text start count replacement := by
  by_cases outside : start < 1 ∨ text.length + 1 < start
  · rw [@overwrite_congr_of_outside text replacement start count outside other]
    obtain ⟨fault, failed⟩ := @overwrite_of_outside text replacement start count outside
    rw [failed]
    rfl
  · have positive : 1 ≤ start := by omega
    have within : start ≤ text.length + 1 := by omega
    obtain ⟨enough, inside⟩ := @overwrittenCount_bounds text other start count positive within
    have kept := length_spliced enough inside
    rw [String.length_toList, ← String.toList_ofList (l := spliced _ _ _ _),
      String.length_toList] at kept
    rw [overwrite_of_within positive within]
    change overwrite _ start count replacement = _
    rw [overwrite_of_within positive (by rw [kept]; exact within),
      overwrite_of_within positive within, overwrittenCount_congr kept rfl,
      overwrittenCount_congr rfl sameSize, String.toList_ofList]
    rw [overwrittenCount_congr rfl sameSize] at enough inside
    rw [spliced_spliced enough inside]

end Overwrite

/-- Overwriting a part of a text fails exactly if it starts outside the text and not right after it.
Else it changes that part only, and reading the part gives what was written; a text is left as it is
by writing what it has from the position on, and of two writes of one size to one place only the last
one counts, also when they fail. -/
theorem overwrite_fits_middle (text : String) (start : Int) (count : Option Int)
    (replacement : String) :
    ((∃ fault, overwrite text start count replacement = .error fault) ↔
        start < 1 ∨ text.length + 1 < start) ∧
      (1 ≤ start → start ≤ text.length + 1 →
        let size := overwrittenCount text start count replacement
        (∃ result, overwrite text start count replacement = .ok result ∧
          result.length = text.length ∧
          (∀ index : Nat, (index + 1 < start ∨ start + size ≤ index + 1) →
            result.toList[index]? = text.toList[index]?) ∧
          middle result start (some size) = .ok (left replacement size)) ∧
        ∃ rest, middle text start none = .ok rest ∧
          overwrite text start count rest = .ok text) ∧
      ∀ other : String, other.length = replacement.length →
        (overwrite text start count other).bind (overwrite · start count replacement) =
          overwrite text start count replacement := by
  refine ⟨⟨?_, overwrite_of_outside⟩, ?_, fun other => overwrite_overwrite⟩
  · rintro ⟨fault, failed⟩
    by_contra within
    rw [overwrite_of_within (by omega) (by omega)] at failed
    cases failed
  · intro positive within size
    obtain ⟨enough, inside⟩ :=
      @overwrittenCount_bounds text replacement start count positive within
    refine ⟨⟨_, overwrite_of_within positive within, ?_, fun index outside => ?_, ?_⟩, ?_⟩
    · rw [← String.length_toList, String.toList_ofList, length_spliced enough inside,
        String.length_toList]
    · rw [String.toList_ofList]
      exact getElem?_spliced_of_outside enough inside (by omega)
    · rw [middle_some positive, String.toList_ofList, take_drop_spliced enough inside]
      refine congrArg Except.ok (String.toList_inj.1 ?_)
      rw [String.toList_ofList, left, Text.toList_takeFirst]
    · refine ⟨_, middle_none positive text, ?_⟩
      rw [overwrite_of_within positive within, String.toList_ofList, spliced_self,
        String.ofList_toList]

/-- Three characters over the last two of five: what has no room is left out. -/
theorem overwrite_fits_middle_at_end :
    (1 ≤ (4 : Int) ∧ (4 : Int) ≤ "abcde".length + 1) ∧
      (∃ result, overwrite "abcde" 4 (some 5) "XYZ" = .ok result ∧ result.length = 5 ∧
        middle result 4 (some 2) = .ok "XY") ∧
      "123".length = "XYZ".length ∧
      (overwrite "abcde" 4 (some 5) "123").bind (overwrite · 4 (some 5) "XYZ") =
        overwrite "abcde" 4 (some 5) "XYZ" := by
  have bounds : 1 ≤ (4 : Int) ∧ (4 : Int) ≤ "abcde".length + 1 := by decide
  have sameSize : "123".length = "XYZ".length := by decide
  obtain ⟨-, read, twice⟩ := overwrite_fits_middle "abcde" 4 (some 5) "XYZ"
  obtain ⟨⟨result, ran, size, -, part⟩, -⟩ := read bounds.1 bounds.2
  exact ⟨bounds, ⟨result, ran, size, part⟩, sameSize, twice "123" sameSize⟩

/-! ## Occurrences -/

/-- An answer to a search for the first position from `first` on: the least one of the positions
wanted, or zero if there is none. -/
def IsFirstFrom (first : Nat) (wanted : Nat → Prop) (answer : Nat) : Prop :=
  IsLeast {position | first ≤ position ∧ wanted position} answer ∨
    answer = 0 ∧ ∀ position, first ≤ position → ¬ wanted position

theorem middle_eq_ok_iff {position : Nat} (positive : 1 ≤ position) (text pattern : String) :
    middle text position (some pattern.length) = .ok pattern ↔
      pattern.toList <+: text.toList.drop (position - 1) := by
  have offset : ((position : Int) - 1).toNat = position - 1 := by omega
  rw [middle_some (by omega), offset, Int.toNat_natCast, List.prefix_iff_eq_take,
    Except.ok.injEq, ← String.toList_inj, String.toList_ofList, String.length_toList]
  exact eq_comm

theorem find?_eq_none {pattern text : String} (nonempty : pattern ≠ "")
    (missed : Text.find? pattern text = none) (position : Nat) :
    ¬ pattern.toList <+: text.toList.drop position := by
  induction position using Nat.strong_induction_on with
  | _ position earlier =>
      intro occurs
      have found := (Text.find?_eq_some_iff nonempty).2 ⟨occurs, earlier⟩
      rw [missed] at found
      cases found

theorem position?_of_past {start : Int} {text : String} (past : text.length + 1 < max start 1)
    (pattern : String) : position? start text pattern = some 0 := by
  rw [position?, if_pos past]

/-- A search that starts in the text or right after it takes the parts of what follows. -/
theorem position?_of_inside {start : Int} {text pattern : String}
    (inside : max start 1 ≤ text.length + 1) (nonempty : pattern ≠ "") :
    position? start text pattern =
      some ((Text.find? pattern (Text.sliceFrom text ((max start 1).toNat - 1))).elim 0
        (· + (max start 1).toNat)) := by
  have size : 1 ≤ pattern.length :=
    Nat.one_le_iff_ne_zero.2 fun none => nonempty (String.length_eq_zero_iff.1 none)
  have offset : (max start 1 - 1).toNat = (max start 1).toNat - 1 := by omega
  rw [position?, if_neg (by omega), if_neg (by simpa using nonempty), sliceFrom?,
    if_pos (by omega), Option.bind_eq_bind, Option.bind_some, findPart?, if_pos size, offset]
  rfl

theorem position?_eq_some (start : Int) (text pattern : String) :
    position? start text pattern = some (TextFunction.position start text pattern) := by
  have isSome : (position? start text pattern).isSome = true := by
    by_cases past : text.length + 1 < max start 1
    · rw [position?_of_past past]
      rfl
    · by_cases empty : pattern = ""
      · rw [empty, position?, if_neg past]
        rfl
      · rw [position?_of_inside (by omega) empty]
        rfl
  obtain ⟨position, found⟩ := Option.isSome_iff_exists.1 isSome
  rw [TextFunction.position, found]
  rfl

theorem isFirstFrom_position {pattern : String} (nonempty : pattern ≠ "") (start : Int)
    (text : String) :
    IsFirstFrom (max start 1).toNat
      (fun position => middle text position (some pattern.length) = .ok pattern)
      (TextFunction.position start text pattern) := by
  have positive : 1 ≤ (max start 1).toNat := by omega
  by_cases past : text.length + 1 < max start 1
  · rw [TextFunction.position, position?_of_past past]
    refine .inr ⟨rfl, fun position later occurs => nonempty ?_⟩
    -- What follows the end of the text is empty.
    have stands := (middle_eq_ok_iff (by omega) text pattern).1 occurs
    rw [List.drop_eq_nil_of_le (by rw [String.length_toList]; omega), List.prefix_nil,
      String.toList_eq_nil_iff] at stands
    exact stands
  · rw [TextFunction.position, position?_of_inside (by omega) nonempty, Option.getD_some]
    generalize (max start 1).toNat = first at positive
    have shifted (offset : Nat) :
        (Text.sliceFrom text (first - 1)).toList.drop offset =
          text.toList.drop (offset + first - 1) := by
      rw [Text.toList_sliceFrom, List.drop_drop]
      congr 1
      omega
    cases found : Text.find? pattern (Text.sliceFrom text (first - 1)) with
    | none =>
        refine .inr ⟨rfl, fun position later occurs => ?_⟩
        have absent := find?_eq_none nonempty found (position - first)
        rw [shifted, Nat.sub_add_cancel later] at absent
        exact absent ((middle_eq_ok_iff (by omega) text pattern).1 occurs)
    | some offset =>
        obtain ⟨occurs, earliest⟩ := (Text.find?_eq_some_iff nonempty).1 found
        rw [shifted] at occurs
        refine .inl ⟨⟨Nat.le_add_left _ _,
          (middle_eq_ok_iff (Nat.le_add_left_of_le positive) text pattern).2 occurs⟩, ?_⟩
        rintro position ⟨later, alsoOccurs⟩
        change offset + first ≤ position
        by_contra before
        have absent := earliest (position - first) (by omega)
        rw [shifted, Nat.sub_add_cancel later] at absent
        exact absent ((middle_eq_ok_iff (by omega) text pattern).1 alsoOccurs)

theorem position_empty (start : Int) (text : String) :
    TextFunction.position start text "" =
      if (max start 1).toNat ≤ text.length + 1 then (max start 1).toNat else 0 := by
  have isEmpty : "".isEmpty = true := rfl
  rw [TextFunction.position, position?]
  by_cases past : text.length + 1 < max start 1
  · rw [if_pos past, if_neg (by omega)]
    rfl
  · rw [if_neg past, if_pos isEmpty, if_pos (by omega)]
    rfl

theorem position_lt {text : String} (fits : text.length < 2 ^ 63) (start : Int64)
    (pattern : String) : TextFunction.position start.toInt text pattern < 2 ^ 63 := by
  have bounded := start.toInt_lt
  by_cases empty : pattern = ""
  · rw [empty, position_empty]
    split <;> omega
  · rcases isFirstFrom_position empty start.toInt text with ⟨⟨later, occurs⟩, -⟩ | ⟨none, -⟩
    · have stands := (middle_eq_ok_iff (by omega) text pattern).1 occurs
      have inside := Text.add_length_le_of_prefix_drop (by simpa using empty) stands
      have size : 0 < pattern.toList.length := List.length_pos_iff.2 (by simpa using empty)
      simp only [String.length_toList] at inside size
      omega
    · omega

end TextFunction

open TextFunction ScalarRoutine in
/-- `InStr` finds the first occurrence from its start on: the least position where `Mid` reads the
pattern. An empty pattern is found at the start unless that is further out than right after the
text. Without a start the search begins at the first character, and no access is out of bounds,
whatever the arguments are. -/
theorem position_finds_first_occurrence (heap : Heap) (start : Int64) (text pattern : String) :
    let first := (max start.toInt 1).toNat
    let found := TextFunction.position start.toInt text pattern
    compute heap [.integer start, .text text, .text pattern] .position =
        .ok (.integer (Int64.ofNat found)) ∧
      (text.length < 2 ^ 63 → (Int64.ofNat found).toInt = found) ∧
      (pattern = "" → found = if first ≤ text.length + 1 then first else 0) ∧
      (pattern ≠ "" → IsFirstFrom first
        (fun position => middle text position (some pattern.length) = .ok pattern) found) ∧
      compute heap [.text text, .text pattern] .position =
        compute heap [.integer 1, .text text, .text pattern] .position ∧
      ∀ arguments start text pattern,
        positionArguments heap arguments = (start, text, pattern) →
        ∃ position, TextFunction.position? start text pattern = some position ∧
          compute heap arguments .position = .ok (.integer (Int64.ofNat position)) := by
  refine ⟨rfl, fun fits => ?_, fun empty => ?_, fun nonempty => ?_, rfl, ?_⟩
  · exact Int64.toInt_ofNat_of_lt (position_lt fits start pattern)
  · rw [empty, position_empty]
  · exact isFirstFrom_position nonempty start.toInt text
  · intro arguments start text pattern searched
    refine ⟨_, position?_eq_some start text pattern, ?_⟩
    rw [compute, searched]

open TextFunction ScalarRoutine in
/-- The second of two occurrences that overlap is the first one after the start. -/
theorem position_finds_overlapping_occurrence :
    "banana".length < 2 ^ 63 ∧ "ana" ≠ "" ∧
      positionArguments {} [.integer 3, .text "banana", .text "ana"] = (3, "banana", "ana") ∧
      TextFunction.position 3 "banana" "ana" = 4 ∧ (Int64.ofNat 4).toInt = 4 ∧
      IsFirstFrom 3 (fun position => middle "banana" position (some 3) = .ok "ana") 4 ∧
      ∃ position, TextFunction.position? 3 "banana" "ana" = some position ∧
        compute {} [.integer 3, .text "banana", .text "ana"] .position =
          .ok (.integer (Int64.ofNat position)) := by
  have fits : "banana".length < 2 ^ 63 := by decide
  have nonempty : "ana" ≠ "" := by decide
  have arguments : positionArguments {} [.integer 3, .text "banana", .text "ana"] =
      (3, "banana", "ana") := rfl
  have start : (3 : Int64).toInt = 3 := rfl
  have found : TextFunction.position 3 "banana" "ana" = 4 := by decide +kernel
  obtain ⟨-, exact, -, first, -, checked⟩ :=
    position_finds_first_occurrence {} 3 "banana" "ana"
  rw [start, found] at exact first
  exact ⟨fits, nonempty, arguments, found, exact fits, first nonempty,
    checked _ _ _ _ arguments⟩

end MacroSandbox
