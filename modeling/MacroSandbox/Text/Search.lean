import MacroSandbox.Text.Pattern
import MacroSandbox.Text.Slice
import MacroSandbox.Text.Walk

/-! Finding, cutting and replacing parts of a text. Positions count characters from zero.

Main statements: `find?_eq_some_iff` says that the position found is that of the first occurrence,
and `map_toList_splitOn` that a text is cut wherever the characters since the last cut end in the
delimiter. -/

namespace MacroSandbox.Text

/-! ## Finding -/

/-- A search on its way through a text: how many characters it has read, how many of the pattern
these end with, and where the pattern occurred first. -/
structure Search where
  position : Nat := 0
  matched : Nat := 0
  found : Option Nat := none

def Search.step (pattern : Pattern) (search : Search) (character : Char) : Search :=
  match search with
  | { found := some position, .. } => { found := some position }
  | { position, matched, found := none } =>
      let matched := pattern.advance matched character
      let size := pattern.characters.size
      if matched == size then { found := some (position + 1 - size) }
      else { position := position + 1, matched, found := none }

/-- The position of the first occurrence of `pattern` in `text`. An empty pattern occurs at the
start. -/
def find? (pattern text : String) : Option Nat :=
  if pattern.isEmpty then some 0
  else (fold (Search.step (Pattern.ofList pattern.toList)) {} text).found

def contains (pattern text : String) : Bool :=
  (find? pattern text).isSome

/-! ## Cutting -/

/-- A text that is being cut at a delimiter: what the pieces so far make up, the piece after the
last cut, and how many characters of the delimiter it ends with. -/
structure Cutting (α : Type) where
  matched : Nat := 0
  piece : String := ""
  pieces : α

/-- Reads one more character. A piece that ends in the delimiter ends before it, and `add` takes it
to the others. -/
@[specialize] def Cutting.step {α : Type} (delimiter : Pattern) (add : α → String → α)
    (cutting : Cutting α) (character : Char) : Cutting α :=
  match cutting with
  | { matched, piece, pieces } =>
      let matched := delimiter.advance matched character
      let piece := piece.push character
      let size := delimiter.characters.size
      if matched == size then
        { matched := 0, piece := "", pieces := add pieces (piece.dropEnd size).copy }
      else { matched, piece, pieces }

/-- The pieces of `text` between the occurrences of `delimiter`, which are taken from the left and
do not overlap. An empty delimiter cuts nothing. -/
def splitOn (delimiter text : String) : Array String :=
  if delimiter.isEmpty then #[text]
  else
    let cutting := fold (Cutting.step (Pattern.ofList delimiter.toList) Array.push)
      { pieces := #[] } text
    cutting.pieces.push cutting.piece

/-- The text with every occurrence of `pattern` replaced. An empty pattern occurs nowhere. -/
def replace (pattern replacement text : String) : String :=
  if pattern.isEmpty then text
  else
    let add (result piece : String) : String := result ++ piece ++ replacement
    let cutting := fold (Cutting.step (Pattern.ofList pattern.toList) add) { pieces := "" } text
    cutting.pieces ++ cutting.piece

/-- The lines of `text`: pieces that end in a line feed, which is removed together with a carriage
return before it, and a last piece that does not. An empty last piece is no line. -/
def lines (text : String) : List String :=
  let pieces := (splitOn "\n" text).toList
  let ended := pieces.dropLast.map fun piece =>
    if piece.back? == some '\r' then (piece.dropEnd 1).copy else piece
  let last := pieces.getLast?.getD ""
  if last.isEmpty then ended else ended ++ [last]

/-! ## Starts and ends -/

def startsWith (start text : String) : Bool :=
  text.startsWith start

def endsWith (ending text : String) : Bool :=
  text.endsWith ending

theorem startsWith_iff {start text : String} :
    startsWith start text = true ↔ start.toList <+: text.toList :=
  String.startsWith_string_iff

theorem endsWith_iff {ending text : String} :
    endsWith ending text = true ↔ ending.toList <:+ text.toList := by
  unfold endsWith
  rw [String.endsWith_eq_endsWith_toSlice, String.Slice.endsWith_string_iff]
  simp

def dropStart? (start text : String) : Option String :=
  if startsWith start text then some (sliceFrom text start.length) else none

def dropEnd? (ending text : String) : Option String :=
  if endsWith ending text then some (text.dropEnd ending.length).copy else none

@[simp] theorem dropStart?_append (start rest : String) :
    dropStart? start (start ++ rest) = some rest := by
  rw [dropStart?, if_pos (startsWith_iff.2 (by simp)), Option.some.injEq, ← String.toList_inj,
    toList_sliceFrom, String.toList_append, ← String.length_toList, List.drop_left]

@[simp] theorem dropEnd?_append (rest ending : String) :
    dropEnd? ending (rest ++ ending) = some rest := by
  rw [dropEnd?, if_pos (endsWith_iff.2 (by simp)), Option.some.injEq, ← String.toList_inj,
    String.toList_copy_dropEnd, String.toList_append, List.length_append, ← String.length_toList,
    Nat.add_sub_cancel, List.take_left]

/-! ## What is found -/

/-- A text that holds an occurrence of a nonempty pattern reaches to the end of it. -/
theorem add_length_le_of_prefix_drop {pattern text : List Char} {position : Nat}
    (nonempty : pattern ≠ []) (occurs : pattern <+: text.drop position) :
    position + pattern.length ≤ text.length := by
  have := occurs.length_le
  have := List.length_pos_iff.2 nonempty
  simp only [List.length_drop] at *
  omega

theorem prefix_drop_append_iff {pattern text more : List Char} {position : Nat}
    (inside : position + pattern.length ≤ text.length) :
    pattern <+: (text ++ more).drop position ↔ pattern <+: text.drop position := by
  rw [List.drop_append_of_le_length (by omega)]
  refine ⟨fun occurs => ?_, fun occurs => occurs.trans (List.prefix_append _ _)⟩
  refine List.prefix_of_prefix_length_le occurs (List.prefix_append _ _) ?_
  simp only [List.length_drop]
  omega

theorem prefix_drop_iff_suffix {pattern text : List Char} {position : Nat}
    (atEnd : position + pattern.length = text.length) :
    pattern <+: text.drop position ↔ pattern <:+ text := by
  have size : (text.drop position).length = pattern.length := by
    simp only [List.length_drop]
    omega
  constructor
  · intro occurs
    rw [occurs.eq_of_length size.symm]
    exact List.drop_suffix _ _
  · rintro ⟨before, rfl⟩
    have : position = before.length := by
      simp only [List.length_append] at atEnd
      omega
    exact ⟨[], by rw [this, List.drop_left, List.append_nil]⟩

/-- What a search knows after reading `read`: the first occurrence if there is one, and else the
best match at the end. -/
def Search.Knows (pattern read : List Char) (search : Search) : Prop :=
  match search.found with
  | some position =>
      pattern <+: read.drop position ∧ ∀ earlier, earlier < position →
        ¬ pattern <+: read.drop earlier
  | none =>
      search.position = read.length ∧ Pattern.IsBest pattern read search.matched ∧
        ∀ position, ¬ pattern <+: read.drop position

theorem Search.knows_step {pattern read : List Char} {search : Search} (nonempty : pattern ≠ [])
    (known : search.Knows pattern read) (character : Char) :
    (search.step (Pattern.ofList pattern) character).Knows pattern (read ++ [character]) := by
  rcases search with ⟨position, matched, found⟩
  cases found with
  | some position =>
      obtain ⟨occurs, first⟩ := known
      have inside := add_length_le_of_prefix_drop nonempty occurs
      refine ⟨(prefix_drop_append_iff inside).2 occurs, fun earlier before => ?_⟩
      rw [prefix_drop_append_iff (by omega)]
      exact first earlier before
  | none =>
      obtain ⟨atEnd, best, absent⟩ := known
      simp only at atEnd best
      have right := Pattern.knows_ofList nonempty
      have next := Pattern.isBest_advance right best.1.1 (by simpa using best) character
      have absentBefore {position : Nat} (before : position + pattern.length ≤ read.length) :
          ¬ pattern <+: (read ++ [character]).drop position := by
        rw [prefix_drop_append_iff before]
        exact absent position
      simp only [Pattern.characters_ofList] at next
      simp only [Search.step, Pattern.characters_ofList, List.size_toArray]
      split
      · rename_i complete
        have complete := eq_of_beq complete
        rw [complete] at next
        have suffix := next.1.2
        rw [List.take_length] at suffix
        have size := suffix.length_le
        simp only [List.length_append, List.length_cons, List.length_nil] at size
        simp only [Search.Knows, atEnd]
        refine ⟨(prefix_drop_iff_suffix (by simp; omega)).2 suffix, fun earlier before => ?_⟩
        exact absentBefore (by omega)
      · rename_i incomplete
        simp only [Search.Knows]
        -- An occurrence now would end at the new character, and be the longest match.
        refine ⟨by simp [atEnd], next, fun position occurs => ?_⟩
        have inside := add_length_le_of_prefix_drop nonempty occurs
        rcases Nat.lt_or_ge read.length (position + pattern.length) with last | before
        · simp only [List.length_append, List.length_cons, List.length_nil] at inside
          have suffix := (prefix_drop_iff_suffix (by simp; omega)).1 occurs
          have := next.2 pattern.length ⟨Nat.le_refl _, by simpa using suffix⟩
          have := next.1.1
          simp only [beq_iff_eq] at incomplete
          omega
        · exact absentBefore before occurs

theorem Search.knows_foldl {pattern : List Char} (nonempty : pattern ≠ []) :
    ∀ (text read : List Char) (search : Search), search.Knows pattern read →
      (text.foldl (Search.step (Pattern.ofList pattern)) search).Knows pattern (read ++ text)
  | [], read, search, known => by simpa using known
  | character :: text, read, search, known => by
      have := knows_foldl nonempty text (read ++ [character]) _
        (Search.knows_step nonempty known character)
      simpa using this

theorem find?_eq_some_iff {pattern text : String} {position : Nat} (nonempty : pattern ≠ "") :
    find? pattern text = some position ↔
      pattern.toList <+: text.toList.drop position ∧
        ∀ earlier, earlier < position → ¬ pattern.toList <+: text.toList.drop earlier := by
  have characters : pattern.toList ≠ [] := by simpa using nonempty
  have start : Search.Knows pattern.toList [] {} := by
    refine ⟨rfl, Pattern.isBest_nil _, fun position occurs => characters ?_⟩
    simpa using occurs
  have known := Search.knows_foldl characters text.toList [] {} start
  rw [find?, if_neg (by simpa using nonempty), fold_eq_foldl]
  simp only [List.nil_append] at known
  generalize text.toList.foldl _ _ = search at known
  rcases search with ⟨_, _, found⟩
  cases found with
  | none => simpa [Search.Knows] using fun occurs => absurd occurs (known.2.2 position)
  | some other =>
      obtain ⟨occurs, first⟩ := known
      constructor
      · intro same
        obtain rfl := Option.some.inj same
        exact ⟨occurs, first⟩
      · rintro ⟨alsoOccurs, alsoFirst⟩
        have notBefore : ¬ position < other := fun before => first position before alsoOccurs
        have notAfter : ¬ other < position := fun before => alsoFirst other before occurs
        have : other = position := by omega
        simp [this]

/-! ## How a text is cut -/

/-- The pieces of a text, of which `piece` is the start of the first: one ends as soon as the
characters since the last cut end in `delimiter`. -/
def cutFrom (delimiter : List Char) : List Char → (piece : List Char) → List (List Char)
  | [], piece => [piece]
  | character :: rest, piece =>
      let piece := piece ++ [character]
      if delimiter.isSuffixOf piece then
        piece.take (piece.length - delimiter.length) :: cutFrom delimiter rest []
      else cutFrom delimiter rest piece

/-- Cutting a text takes all its pieces but the last one to `add`, in order. -/
theorem Cutting.foldl_step {α : Type} {delimiter : List Char} (nonempty : delimiter ≠ [])
    (add : α → String → α) :
    ∀ (text : List Char) (cutting : Cutting α),
      Pattern.IsBest delimiter cutting.piece.toList cutting.matched →
      let result := text.foldl (Cutting.step (Pattern.ofList delimiter) add) cutting
      ∃ before : List String,
        result.pieces = before.foldl add cutting.pieces ∧
          before.map String.toList ++ [result.piece.toList] =
            cutFrom delimiter text cutting.piece.toList
  | [], cutting, _ => ⟨[], by simp [cutFrom]⟩
  | character :: text, ⟨matched, piece, pieces⟩, best => by
      have right := Pattern.knows_ofList nonempty
      have next := Pattern.isBest_advance right best.1.1 (by simpa using best) character
      simp only [Pattern.characters_ofList] at next
      simp only [List.foldl_cons, Cutting.step, Pattern.characters_ofList, List.size_toArray,
        cutFrom]
      split
      · rename_i complete
        have complete := eq_of_beq complete
        rw [complete] at next
        have suffix := next.1.2
        rw [List.take_length] at suffix
        rw [if_pos (List.isSuffixOf_iff_suffix.2 suffix)]
        -- A piece ends here, and nothing of the delimiter is matched in the next one yet.
        obtain ⟨before, total, all⟩ := Cutting.foldl_step nonempty add text
          ⟨0, "", add pieces ((piece.push character).dropEnd delimiter.length).copy⟩
          (by simpa using Pattern.isBest_nil delimiter)
        refine ⟨((piece.push character).dropEnd delimiter.length).copy :: before, total, ?_⟩
        simp only [String.toList_empty] at all
        simp [← all, String.toList_copy_dropEnd, String.toList_push]
      · rename_i incomplete
        have notSuffix : ¬ delimiter <:+ piece.toList ++ [character] := by
          intro suffix
          have := next.2 delimiter.length ⟨Nat.le_refl _, by simpa using suffix⟩
          have := next.1.1
          simp only [beq_iff_eq] at incomplete
          omega
        rw [if_neg (fun suffix => notSuffix (List.isSuffixOf_iff_suffix.1 suffix))]
        have := Cutting.foldl_step nonempty add text
          ⟨(Pattern.ofList delimiter).advance matched character, piece.push character, pieces⟩
          (by simpa [String.toList_push] using next)
        simpa [String.toList_push] using this

theorem map_toList_splitOn {delimiter text : String} (nonempty : delimiter ≠ "") :
    (splitOn delimiter text).toList.map String.toList =
      cutFrom delimiter.toList text.toList [] := by
  rw [splitOn, if_neg (by simpa using nonempty), fold_eq_foldl]
  obtain ⟨before, total, all⟩ := @Cutting.foldl_step _ delimiter.toList (by simpa using nonempty)
    Array.push text.toList { pieces := #[] } (by simpa using Pattern.isBest_nil delimiter.toList)
  simp only [String.toList_empty] at all
  simp [total, ← all]

theorem replace_eq_intercalate (pattern replacement text : String) :
    replace pattern replacement text =
      String.intercalate replacement (splitOn pattern text).toList := by
  by_cases empty : pattern = ""
  · simp [replace, splitOn, empty]
  · have joined (before : List String) (start last : String) :
        before.foldl (fun result piece => result ++ piece ++ replacement) start ++ last =
          start ++ String.intercalate replacement (before ++ [last]) := by
      induction before generalizing start with
      | nil => simp
      | cons piece rest hypothesis =>
          rw [List.foldl_cons, hypothesis, List.cons_append]
          cases rest <;> simp [String.append_assoc]
    rw [replace, splitOn, if_neg (by simpa using empty), if_neg (by simpa using empty)]
    simp only [fold_eq_foldl]
    obtain ⟨before, total, all⟩ := @Cutting.foldl_step _ pattern.toList (by simpa using empty)
      (fun result piece : String => result ++ piece ++ replacement) text.toList { pieces := "" }
      (by simpa using Pattern.isBest_nil pattern.toList)
    obtain ⟨others, pushed, same⟩ := @Cutting.foldl_step _ pattern.toList (by simpa using empty)
      Array.push text.toList { pieces := #[] } (by simpa using Pattern.isBest_nil pattern.toList)
    rw [← all] at same
    obtain ⟨samePieces, sameLast⟩ := List.append_inj' same (by simp)
    have samePieces := (List.map_inj_right fun _ _ => String.toList_inj.1).1 samePieces
    have sameLast := String.toList_inj.1 (List.head_eq_of_cons_eq sameLast)
    rw [total, pushed, sameLast, samePieces, joined]
    simp

end MacroSandbox.Text
