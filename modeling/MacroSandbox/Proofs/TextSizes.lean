import Mathlib
import MacroSandbox.Proofs.TextPieces
import MacroSandbox.Text.Case

/-! How many bytes texts have.

Leaving characters out makes a text no larger, and moving them about leaves it as large as it was. Three
things can make it larger: characters whose other case takes more bytes, a replacement that is longer
than what it replaces, and joining or repeating texts. Their sizes are computed here. -/

namespace MacroSandbox

namespace Text

/-! ## Parts of a text -/

theorem utf8ByteSize_le_of_sublist {part whole : String}
    (sublist : part.toList.Sublist whole.toList) : part.utf8ByteSize ≤ whole.utf8ByteSize := by
  rw [← String.utf8Len_toList, ← String.utf8Len_toList]
  exact String.utf8Len_le_of_sublist sublist

theorem utf8ByteSize_le_four_mul_length (text : String) :
    text.utf8ByteSize ≤ 4 * text.length := by
  refine String.push_induction text (fun text => text.utf8ByteSize ≤ 4 * text.length) (by simp) ?_
  intro text character bounded
  have := character.utf8Size_le_four
  simp only [String.length_push, String.utf8ByteSize_push]
  omega

theorem utf8ByteSize_takeFirst_le (text : String) (count : Nat) :
    (takeFirst text count).utf8ByteSize ≤ text.utf8ByteSize := by
  apply utf8ByteSize_le_of_sublist
  rw [toList_takeFirst]
  exact List.take_sublist _ _

theorem utf8ByteSize_sliceFrom_le (text : String) (start : Nat) :
    (sliceFrom text start).utf8ByteSize ≤ text.utf8ByteSize := by
  apply utf8ByteSize_le_of_sublist
  rw [toList_sliceFrom]
  exact List.drop_sublist _ _

theorem utf8ByteSize_slice_le (text : String) (start count : Nat) :
    (slice text start count).utf8ByteSize ≤ text.utf8ByteSize := by
  apply utf8ByteSize_le_of_sublist
  rw [toList_slice]
  exact (List.take_sublist _ _).trans (List.drop_sublist _ _)

theorem utf8ByteSize_trimMatches_le (skip : Char → Bool) (text : String) :
    (trimMatches skip text).utf8ByteSize ≤ text.utf8ByteSize := by
  apply utf8ByteSize_le_of_sublist
  rw [trimMatches, String.toList_ofList]
  exact trimWhere_sublist _ _

theorem utf8ByteSize_trimStartMatches_le (skip : Char → Bool) (text : String) :
    (trimStartMatches skip text).utf8ByteSize ≤ text.utf8ByteSize := by
  apply utf8ByteSize_le_of_sublist
  rw [trimStartMatches, String.toList_ofList]
  exact List.dropWhile_sublist _

theorem utf8ByteSize_trimEndMatches_le (skip : Char → Bool) (text : String) :
    (trimEndMatches skip text).utf8ByteSize ≤ text.utf8ByteSize := by
  apply utf8ByteSize_le_of_sublist
  rw [trimEndMatches, String.toList_ofList]
  simpa using (List.dropWhile_sublist skip (l := text.toList.reverse)).reverse

/-! ## Joining and repeating -/

theorem utf8ByteSize_intercalate (separator : String) :
    ∀ texts : List String, (String.intercalate separator texts).utf8ByteSize =
      (texts.map String.utf8ByteSize).sum + (texts.length - 1) * separator.utf8ByteSize
  | [] => by simp
  | [text] => by simp
  | first :: second :: rest => by
      rw [String.intercalate_cons_cons, String.utf8ByteSize_append, String.utf8ByteSize_append,
        utf8ByteSize_intercalate separator (second :: rest)]
      simp only [List.map_cons, List.sum_cons, List.length_cons, Nat.add_sub_cancel, Nat.succ_mul]
      omega

theorem utf8ByteSize_pushn (text : String) (character : Char) (count : Nat) :
    (text.pushn character count).utf8ByteSize =
      text.utf8ByteSize + count * character.utf8Size := by
  induction count with
  | zero => simp [String.pushn, Nat.repeat]
  | succ count induction =>
      rw [String.pushn] at induction
      rw [String.pushn, Nat.repeat, String.utf8ByteSize_push, induction, Nat.succ_mul, Nat.add_assoc]

/-! ## Cutting and replacing -/

theorem utf8ByteSize_le_of_mem_splitOn {delimiter text piece : String}
    (member : piece ∈ splitOn delimiter text) : piece.utf8ByteSize ≤ text.utf8ByteSize := by
  have total := utf8ByteSize_intercalate delimiter (splitOn delimiter text).toList
  have single := List.single_le_sum (fun size _ => Nat.zero_le size) _
    (List.mem_map_of_mem (f := String.utf8ByteSize) (Array.mem_toList_iff.2 member))
  rw [intercalate_splitOn] at total
  omega

def cutCount (delimiter text : String) : Nat :=
  (splitOn delimiter text).size - 1

/-- Every occurrence that is replaced leaves the text, and its replacement enters it. -/
theorem utf8ByteSize_replace (pattern replacement text : String) :
    (replace pattern replacement text).utf8ByteSize +
        cutCount pattern text * pattern.utf8ByteSize =
      text.utf8ByteSize + cutCount pattern text * replacement.utf8ByteSize := by
  have before := utf8ByteSize_intercalate pattern (splitOn pattern text).toList
  have after := utf8ByteSize_intercalate replacement (splitOn pattern text).toList
  rw [intercalate_splitOn, Array.length_toList] at before
  rw [← replace_eq_intercalate, Array.length_toList] at after
  rw [before, after, cutCount]
  omega

/-! ## Upper and lower case -/

theorem utf8ByteSize_toUpper (text : String) :
    (toUpper text).utf8ByteSize = String.utf8Len (text.toList.flatMap upperCharacter) := by
  rw [toUpper, ← String.utf8Len_toList, toList_mapCharacters]

theorem utf8Len_lowerCharacter_of_isSigma {character : Char} (sigma : isSigma character = true) :
    String.utf8Len (lowerCharacter character) = 2 := by
  have code : character.toNat = 0x3A3 := by simpa [isSigma] using sigma
  rw [← Char.ofNat_toNat character, code]
  decide +kernel

theorem utf8Len_lowerFrom (before : List Char) :
    ∀ characters result : List Char, String.utf8Len (lowerFrom before characters result) =
      String.utf8Len result + String.utf8Len (characters.flatMap lowerCharacter) := by
  intro characters
  induction characters generalizing before with
  | nil => simp [lowerFrom]
  | cons character rest induction =>
      intro result
      rw [lowerFrom, induction, String.utf8Len_append, String.utf8Len_reverse, List.flatMap_cons,
        String.utf8Len_append]
      have image : String.utf8Len
          (if isSigma character then
            if startsCased before && !startsCased rest then [Char.ofNat 0x3C2]
            else [Char.ofNat 0x3C3]
          else lowerCharacter character) = String.utf8Len (lowerCharacter character) := by
        split
        · rename_i sigma
          rw [utf8Len_lowerCharacter_of_isSigma sigma]
          split <;> rfl
        · rfl
      omega

/-- Where a capital sigma stands makes no difference to the size of the text in lower case. -/
theorem utf8ByteSize_toLower (text : String) :
    (toLower text).utf8ByteSize = String.utf8Len (text.toList.flatMap lowerCharacter) := by
  rw [← String.utf8Len_toList, toList_toLower, utf8Len_lowerFrom, String.utf8Len_nil, Nat.zero_add]

end Text

/-! ## Text functions -/

namespace TextFunction

theorem utf8ByteSize_le_of_middle {text part : String} {start : Int} {count : Option Int}
    (found : middle text start count = .ok part) : part.utf8ByteSize ≤ text.utf8ByteSize := by
  unfold middle at found
  split at found
  · cases found
  · rw [← Except.ok.inj found]
    split
    · exact Text.utf8ByteSize_slice_le _ _ _
    · exact Text.utf8ByteSize_sliceFrom_le _ _

theorem utf8ByteSize_reverse (text : String) :
    (reverse text).utf8ByteSize = text.utf8ByteSize := by
  rw [← String.utf8Len_toList, toList_reverse, String.utf8Len_reverse, String.utf8Len_toList]

end TextFunction

end MacroSandbox
