/-! Walks through the characters of a text. A walk is a recursion on the bytes that are left, so it
can be evaluated wherever a definition can be unfolded. -/

namespace MacroSandbox.Text

@[specialize] def foldFrom {α : Type} {text : String} (step : α → Char → α) :
    (left : Nat) → (place : text.Pos) → (result : α) → α
  | 0, _, result => result
  | left + 1, place, result =>
      if atEnd : place = text.endPos then result
      else foldFrom step left (place.next atEnd) (step result (place.get atEnd))

@[specialize] def fold {α : Type} (step : α → Char → α) (start : α) (text : String) : α :=
  foldFrom step text.utf8ByteSize text.startPos start

@[specialize] def anyFrom {text : String} (test : Char → Bool) :
    (left : Nat) → (place : text.Pos) → Bool
  | 0, _ => false
  | left + 1, place =>
      if atEnd : place = text.endPos then false
      else test (place.get atEnd) || anyFrom test left (place.next atEnd)

@[specialize] def any (test : Char → Bool) (text : String) : Bool :=
  anyFrom test text.utf8ByteSize text.startPos

@[specialize] def all (test : Char → Bool) (text : String) : Bool :=
  !any (!test ·) text

@[specialize] def skipFrom {text : String} (skip : Char → Bool) :
    (left : Nat) → (place : text.Pos) → text.Pos
  | 0, place => place
  | left + 1, place =>
      if atEnd : place = text.endPos then place
      else if skip (place.get atEnd) then skipFrom skip left (place.next atEnd)
      else place

@[specialize] def dropWhile (skip : Char → Bool) (text : String) : String.Slice :=
  text.sliceFrom (skipFrom skip text.utf8ByteSize text.startPos)

@[specialize] def map (image : Char → Char) (text : String) : String :=
  fold (fun result character => result.push (image character)) "" text

/-! ## Walks through the list of characters -/

private theorem splits_next {text before after : String} {place : text.Pos}
    (splits : place.Splits before after) (inside : place ≠ text.endPos) :
    ∃ rest : String, after.toList = place.get inside :: rest.toList ∧
      (place.next inside).Splits (before ++ String.singleton (place.get inside)) rest ∧
      rest.utf8ByteSize < after.utf8ByteSize := by
  obtain ⟨rest, rfl⟩ := splits.exists_eq_singleton_append inside
  refine ⟨rest, by simp, splits.next, ?_⟩
  have := (place.get inside).utf8Size_pos
  simp only [String.utf8ByteSize_append, String.utf8ByteSize_singleton]
  omega

private theorem after_eq_empty {text before after : String} {place : text.Pos}
    (splits : place.Splits before after) (atEnd : place = text.endPos) : after = "" := by
  subst atEnd
  exact (String.splits_endPos_iff.1 splits).2

private theorem foldFrom_eq {α : Type} {text : String} (step : α → Char → α) :
    ∀ (left : Nat) (place : text.Pos) (result : α) (before after : String),
      place.Splits before after → after.utf8ByteSize ≤ left →
      foldFrom step left place result = after.toList.foldl step result
  | 0, place, result, before, after, _, enough => by
      have : after = "" := by simpa using enough
      simp [foldFrom, this]
  | left + 1, place, result, before, after, splits, enough => by
      unfold foldFrom
      split
      · rename_i atEnd
        simp [after_eq_empty splits atEnd]
      · rename_i inside
        obtain ⟨rest, first, next, shorter⟩ := splits_next splits inside
        rw [foldFrom_eq step left _ _ _ rest next (by omega), first, List.foldl_cons]

theorem fold_eq_foldl {α : Type} (step : α → Char → α) (start : α) (text : String) :
    fold step start text = text.toList.foldl step start :=
  foldFrom_eq step _ _ _ _ _ text.splits_startPos (Nat.le_refl _)

private theorem anyFrom_eq {text : String} (test : Char → Bool) :
    ∀ (left : Nat) (place : text.Pos) (before after : String),
      place.Splits before after → after.utf8ByteSize ≤ left →
      anyFrom test left place = after.toList.any test
  | 0, place, before, after, _, enough => by
      have : after = "" := by simpa using enough
      simp [anyFrom, this]
  | left + 1, place, before, after, splits, enough => by
      unfold anyFrom
      split
      · rename_i atEnd
        simp [after_eq_empty splits atEnd]
      · rename_i inside
        obtain ⟨rest, first, next, shorter⟩ := splits_next splits inside
        rw [anyFrom_eq test left _ _ rest next (by omega), first, List.any_cons]

theorem any_eq (test : Char → Bool) (text : String) : any test text = text.toList.any test :=
  anyFrom_eq test _ _ _ _ text.splits_startPos (Nat.le_refl _)

theorem all_eq (test : Char → Bool) (text : String) : all test text = text.toList.all test := by
  rw [all, any_eq, List.not_any_eq_all_not]
  simp

private theorem splits_skipFrom {text : String} (skip : Char → Bool) :
    ∀ (left : Nat) (place : text.Pos) (before after : String),
      place.Splits before after → after.utf8ByteSize ≤ left →
      ∃ passed rest : String, (skipFrom skip left place).Splits passed rest ∧
        rest.toList = after.toList.dropWhile skip
  | 0, place, before, after, splits, enough => by
      have : after = "" := by simpa using enough
      exact ⟨before, after, splits, by simp [this]⟩
  | left + 1, place, before, after, splits, enough => by
      unfold skipFrom
      split
      · rename_i atEnd
        exact ⟨before, after, splits, by simp [after_eq_empty splits atEnd]⟩
      · rename_i inside
        obtain ⟨rest, first, next, shorter⟩ := splits_next splits inside
        split
        · rename_i skipped
          rw [first, List.dropWhile_cons_of_pos skipped]
          exact splits_skipFrom skip left _ _ rest next (by omega)
        · rename_i kept
          exact ⟨before, after, splits, by rw [first, List.dropWhile_cons_of_neg kept]⟩

theorem toList_map (image : Char → Char) (text : String) :
    (map image text).toList = text.toList.map image := by
  have pushed (characters : List Char) (result : String) :
      (characters.foldl (fun result character => result.push (image character)) result).toList =
        result.toList ++ characters.map image := by
    induction characters generalizing result with
    | nil => simp
    | cons character rest induction => simp [induction, String.toList_push]
  rw [map, fold_eq_foldl, pushed]
  simp

end MacroSandbox.Text
