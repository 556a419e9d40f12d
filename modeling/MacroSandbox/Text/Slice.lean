/-! Parts of a text by position. Positions count characters from zero. In a text of one-byte
characters a position is found without a walk through what precedes it. -/

namespace MacroSandbox.Text

theorem length_le_utf8ByteSize (text : String) : text.length ≤ text.utf8ByteSize := by
  refine String.push_induction text (fun text => text.length ≤ text.utf8ByteSize) (by simp) ?_
  intro text character bounded
  have := character.utf8Size_pos
  simp only [String.length_push, String.utf8ByteSize_push]
  omega

def placeAfter? (text : String) (count : Nat) : Option text.Pos :=
  if text.length == text.utf8ByteSize then text.pos? ⟨count⟩ else none

theorem exists_splits_of_placeAfter? {text : String} {count : Nat} {place : text.Pos}
    (found : placeAfter? text count = some place) :
    ∃ before after : String, place.Splits before after ∧ before.length = count := by
  unfold placeAfter? at found
  split at found
  · rename_i oneByte
    have offset : place.offset = ⟨count⟩ := by
      simp only [String.pos?, String.Slice.pos?] at found
      split at found
      · obtain rfl := Option.some.inj found
        simp
      · simp at found
    refine ⟨_, _, place.splits, ?_⟩
    have splits := place.splits
    generalize (text.sliceTo place).copy = before at splits
    generalize (text.sliceFrom place).copy = after at splits
    have size : before.utf8ByteSize = count := by
      have := congrArg String.Pos.Raw.byteIdx splits.offset_eq_rawEndPos
      rw [offset, String.byteIdx_rawEndPos] at this
      exact this.symm
    have := length_le_utf8ByteSize before
    have := length_le_utf8ByteSize after
    have total : text.length = text.utf8ByteSize := by simpa using oneByte
    rw [splits.eq_append, String.length_append, String.utf8ByteSize_append] at total
    omega
  · simp at found

def dropFirst (text : String) (count : Nat) : String.Slice :=
  match placeAfter? text count with
  | some place => text.sliceFrom place
  | none => text.drop count

def takeFirst (text : String) (count : Nat) : String :=
  match placeAfter? text count with
  | some place => (text.sliceTo place).copy
  | none => (text.take count).copy

theorem toList_dropFirst (text : String) (count : Nat) :
    (dropFirst text count).copy.toList = text.toList.drop count := by
  unfold dropFirst
  split
  · rename_i place found
    obtain ⟨before, after, splits, rfl⟩ := exists_splits_of_placeAfter? found
    rw [splits.copy_sliceFrom_eq, splits.eq_append, String.toList_append, ← String.length_toList,
      List.drop_left]
  · exact String.toList_copy_drop

@[simp] theorem toList_takeFirst (text : String) (count : Nat) :
    (takeFirst text count).toList = text.toList.take count := by
  unfold takeFirst
  split
  · rename_i place found
    obtain ⟨before, after, splits, rfl⟩ := exists_splits_of_placeAfter? found
    rw [splits.copy_sliceTo_eq, splits.eq_append, String.toList_append, ← String.length_toList,
      List.take_left]
  · exact String.toList_copy_take

def sliceFrom (text : String) (start : Nat) : String :=
  (dropFirst text start).copy

def slice (text : String) (start count : Nat) : String :=
  ((dropFirst text start).take count).copy

@[simp] theorem toList_sliceFrom (text : String) (start : Nat) :
    (sliceFrom text start).toList = text.toList.drop start :=
  toList_dropFirst text start

@[simp] theorem toList_slice (text : String) (start count : Nat) :
    (slice text start count).toList = (text.toList.drop start).take count := by
  rw [slice, String.Slice.toList_copy_take, toList_dropFirst]

/-- The part of a text that starts after `start` bytes and takes `count` bytes, if it is made up of
whole characters. -/
def bytesFrom (text : String) (start count : Nat) : String :=
  match text.pos? ⟨start⟩, text.pos? ⟨start + count⟩ with
  | some first, some last => text.extract first last
  | _, _ => ""

end MacroSandbox.Text
