import MacroSandbox.Text.CaseTable
import MacroSandbox.Text.Character
import MacroSandbox.Text.Substitution

/-! Upper and lower case of whole texts. The mapping of a character may be several characters, and
the lower case of a capital sigma depends on whether it ends a word. -/

namespace MacroSandbox.Text

/-- The image of `code` under a run that reaches over it. Codes between two strides stay. -/
def CaseRun.image (run : CaseRun) (code : Nat) : Nat :=
  if (code - run.first) % run.stride == 0 then Int.toNat (code + run.offset) else code

namespace CaseTable

/-- The image of `code` in `table`, which is `code` itself when no run holds it. -/
def image (table : Array CaseRun) (code : Nat) : Nat :=
  match Table.find? (fun run : CaseRun => Table.placeInRange code run.first run.last) table with
  | some run => run.image code
  | none => code

def upperSequence? (code : Nat) : Option (List Nat) :=
  (Table.find? (fun entry : Nat × List Nat => Table.placeInRange code entry.1 entry.1)
    upperSequences).map Prod.snd

end CaseTable

def lowerCharacter (character : Char) : List Char :=
  if character.toNat < 0x80 then [character.toLower]
  else if character.toNat == 0x130 then ['i', Char.ofNat 0x307]
  else [Char.ofNat (CaseTable.image CaseTable.lowerRuns character.toNat)]

def upperCharacter (character : Char) : List Char :=
  if character.toNat < 0x80 then [character.toUpper]
  else
    match CaseTable.upperSequence? character.toNat with
    | some sequence => sequence.map Char.ofNat
    | none => [Char.ofNat (CaseTable.image CaseTable.upperRuns character.toNat)]

/-! ## Whole texts -/

def toUpper (text : String) : String :=
  mapCharacters upperCharacter text

def startsCased (characters : List Char) : Bool :=
  match characters.dropWhile isCaseIgnorable with
  | [] => false
  | character :: _ => isCased character

def isSigma (character : Char) : Bool :=
  character.toNat == 0x3A3

/-- Lower-cases `characters`; `before` holds what stands in front of them, nearest first. A capital
sigma after a letter and before none is written as a final sigma. -/
def lowerFrom : (before characters result : List Char) → List Char
  | _, [], result => result.reverse
  | before, character :: rest, result =>
      let image :=
        if isSigma character then
          if startsCased before && !startsCased rest then [Char.ofNat 0x3C2]
          else [Char.ofNat 0x3C3]
        else lowerCharacter character
      lowerFrom (character :: before) rest (image.reverse ++ result)

/-- The text in lower case. Only a text with a capital sigma needs a look around each character. -/
def toLower (text : String) : String :=
  if text.any isSigma then String.ofList (lowerFrom [] text.toList [])
  else mapCharacters lowerCharacter text

theorem toList_toLower (text : String) : (toLower text).toList = lowerFrom [] text.toList [] := by
  have plain (characters before result : List Char)
      (noSigma : ∀ character ∈ characters, isSigma character = false) :
      lowerFrom before characters result =
        result.reverse ++ characters.flatMap lowerCharacter := by
    induction characters generalizing before result with
    | nil => simp [lowerFrom]
    | cons character rest hypothesis =>
        have here := noSigma character (by simp)
        simp only [lowerFrom, here, Bool.false_eq_true, if_false]
        rw [hypothesis _ _ fun other member => noSigma other (by simp [member])]
        simp
  unfold toLower
  rw [String.any, String.contains_bool_eq]
  split
  · exact String.toList_ofList
  · rename_i noSigma
    rw [toList_mapCharacters, plain _ _ _ (by simpa using noSigma)]
    simp

end MacroSandbox.Text
