import MacroSandbox.Text.Walk

/-! Texts in which every character is replaced by characters of its own. -/

namespace MacroSandbox.Text

@[specialize] def mapCharacters (image : Char → List Char) (text : String) : String :=
  fold (fun result character => (image character).foldl String.push result) "" text

theorem toList_foldl_push (characters : List Char) (text : String) :
    (characters.foldl String.push text).toList = text.toList ++ characters := by
  induction characters generalizing text with
  | nil => simp
  | cons character rest hypothesis => simp [hypothesis, String.toList_push]

@[simp] theorem toList_mapCharacters (image : Char → List Char) (text : String) :
    (mapCharacters image text).toList = text.toList.flatMap image := by
  have step (characters : List Char) (result : String) :
      (characters.foldl (fun result character => (image character).foldl String.push result)
        result).toList = result.toList ++ characters.flatMap image := by
    induction characters generalizing result with
    | nil => simp
    | cons character rest hypothesis => simp [hypothesis, toList_foldl_push]
  rw [mapCharacters, fold_eq_foldl, step]
  simp

end MacroSandbox.Text
