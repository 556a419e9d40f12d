/-! Texts to look for.

A search reads a text from left to right and keeps how many characters of the pattern the characters
read so far end with: as many as possible. When the next character does not continue the pattern,
the next best number is the longest border of what was matched, that is, the longest shorter text
that it both starts and ends with. The borders of every start of the pattern are computed once, so a
search takes time proportional to the text. -/

namespace MacroSandbox.Text

/-- A text to look for, with the length of the longest border of its first `i + 1` characters at
position `i`. -/
structure Pattern where
  characters : Array Char
  borders : Array Nat

namespace Pattern

@[inline] def continues (pattern : Pattern) (matched : Nat) (character : Char) : Bool :=
  if inside : matched < pattern.characters.size then
    pattern.characters[matched] == character
  else false

/-- The length of the longest border of the first `matched` characters, of which there are some. -/
@[inline] def border (pattern : Pattern) (matched : Nat) : Nat :=
  pattern.borders.getD (matched - 1) 0

/-- How many characters of the pattern the text read so far ends with after one more character, if
it ended with `matched` before. -/
def advance (pattern : Pattern) (matched : Nat) (character : Char) : Nat :=
  if pattern.continues matched character then matched + 1
  else if matched == 0 then 0
  else if pattern.border matched < matched then
    pattern.advance (pattern.border matched) character
  else 0
termination_by matched

def addBorders (pattern : Pattern) : List Char → (matched : Nat) → Pattern
  | [], _ => pattern
  | character :: rest, matched =>
      let matched := pattern.advance matched character
      addBorders { pattern with borders := pattern.borders.push matched } rest matched

def ofList (characters : List Char) : Pattern :=
  addBorders { characters := characters.toArray, borders := #[0] } characters.tail 0

/-! ## What a search keeps -/

def Ends (pattern read : List Char) (count : Nat) : Prop :=
  count ≤ pattern.length ∧ pattern.take count <:+ read

def IsBest (pattern read : List Char) (count : Nat) : Prop :=
  Ends pattern read count ∧ ∀ other, Ends pattern read other → other ≤ count

theorem ends_zero (pattern read : List Char) : Ends pattern read 0 :=
  ⟨Nat.zero_le _, by simp⟩

theorem isBest_nil (pattern : List Char) : IsBest pattern [] 0 := by
  refine ⟨ends_zero pattern [], fun other ends => ?_⟩
  have := ends.2.length_le
  have := ends.1
  simp only [List.length_take, List.length_nil] at *
  omega

theorem concat_suffix_concat {α : Type} {left right : List α} {first second : α} :
    left ++ [first] <:+ right ++ [second] ↔ left <:+ right ∧ first = second := by
  rw [← List.reverse_prefix]
  simp [List.cons_prefix_cons, List.reverse_prefix, and_comm]

theorem ends_concat_succ {pattern read : List Char} {character : Char} {count : Nat} :
    Ends pattern (read ++ [character]) (count + 1) ↔
      Ends pattern read count ∧ pattern[count]? = some character := by
  unfold Ends
  constructor
  · rintro ⟨bound, suffix⟩
    rw [List.take_add_one, List.getElem?_eq_getElem (by omega)] at suffix
    rw [Option.toList_some, concat_suffix_concat] at suffix
    refine ⟨⟨by omega, suffix.1⟩, ?_⟩
    rw [List.getElem?_eq_getElem (by omega), suffix.2]
  · rintro ⟨⟨_, suffix⟩, here⟩
    have bound : count < pattern.length := (List.getElem?_eq_some_iff.1 here).1
    refine ⟨bound, ?_⟩
    rw [List.take_add_one, here, Option.toList_some, concat_suffix_concat]
    exact ⟨suffix, rfl⟩

theorem ends_take_iff {pattern read : List Char} {count shorter : Nat}
    (ends : Ends pattern read count) (less : shorter ≤ count) :
    Ends pattern (pattern.take count) shorter ↔ Ends pattern read shorter := by
  have := ends.1
  refine ⟨fun other => ⟨other.1, other.2.trans ends.2⟩, fun other => ⟨other.1, ?_⟩⟩
  refine List.suffix_of_suffix_length_le other.2 ends.2 ?_
  simp only [List.length_take]
  omega

/-! ## Borders -/

def IsBorder (pattern : List Char) (count border : Nat) : Prop :=
  border < count ∧ Ends pattern (pattern.take count) border ∧
    ∀ other, other < count → Ends pattern (pattern.take count) other → other ≤ border

def Knows (pattern : Pattern) (known : Nat) : Prop :=
  known ≤ pattern.characters.size ∧ known ≤ pattern.borders.size ∧
    ∀ count, 0 < count → count ≤ known →
      IsBorder pattern.characters.toList count (pattern.border count)

theorem isBorder_iff_isBest {pattern : List Char} {count border : Nat}
    (bound : count < pattern.length) :
    IsBorder pattern (count + 1) border ↔ IsBest pattern (pattern.tail.take count) border := by
  cases pattern with
  | nil => simp at bound
  | cons first rest =>
    simp only [List.length_cons] at bound
    have size : (rest.take count).length = count := by
      rw [List.length_take]
      omega
    -- A proper ending of the start of the pattern is an ending of the same start without its
    -- first character, since only the whole start is longer.
    have proper {other : Nat} :
        other < count + 1 ∧ Ends (first :: rest) (first :: rest.take count) other ↔
          Ends (first :: rest) (rest.take count) other := by
      unfold Ends
      have length : ((first :: rest).take other).length = min other (rest.length + 1) := by simp
      constructor
      · rintro ⟨less, bounded, suffix⟩
        refine ⟨bounded, ?_⟩
        rcases List.suffix_cons_iff.1 suffix with whole | suffix
        · have := congrArg List.length whole
          rw [length, List.length_cons, size] at this
          omega
        · exact suffix
      · rintro ⟨bounded, suffix⟩
        refine ⟨?_, bounded, suffix.trans (List.suffix_cons _ _)⟩
        have := suffix.length_le
        rw [length, size] at this
        simp only [List.length_cons] at bounded
        omega
    simp only [IsBorder, IsBest, List.take_succ_cons, List.tail_cons]
    constructor
    · rintro ⟨less, ends, best⟩
      refine ⟨proper.1 ⟨less, ends⟩, fun other ends => ?_⟩
      obtain ⟨less, ends⟩ := proper.2 ends
      exact best other less ends
    · rintro ⟨ends, best⟩
      obtain ⟨less, ends⟩ := proper.2 ends
      exact ⟨less, ends, fun other less ends => best other (proper.1 ⟨less, ends⟩)⟩

/-! ## Searching -/

theorem continues_iff {pattern : Pattern} {matched : Nat} {character : Char} :
    pattern.continues matched character = true ↔
      pattern.characters.toList[matched]? = some character := by
  unfold continues
  split
  · rename_i inside
    simp [inside]
  · rename_i outside
    simp only [Bool.false_eq_true, Array.getElem?_toList, false_iff]
    rw [Array.getElem?_eq_none (by omega)]
    simp

theorem isBest_advance_of {pattern : Pattern} {known : Nat} (right : pattern.Knows known)
    {read : List Char} {character : Char} : ∀ {matched : Nat}, matched ≤ known →
      Ends pattern.characters.toList read matched →
      (∀ other, Ends pattern.characters.toList read other →
        pattern.characters.toList[other]? = some character → other ≤ matched) →
      IsBest pattern.characters.toList (read ++ [character]) (pattern.advance matched character) :=
  fun {matched} bound ends best => by
    rw [advance]
    split
    · rename_i continues
      refine ⟨ends_concat_succ.2 ⟨ends, continues_iff.1 continues⟩, fun other ends => ?_⟩
      cases other with
      | zero => omega
      | succ other =>
          obtain ⟨ends, here⟩ := ends_concat_succ.1 ends
          have := best other ends here
          omega
    · rename_i stops
      have stopped : pattern.characters.toList[matched]? ≠ some character :=
        fun here => stops (continues_iff.2 here)
      split
      · rename_i zero
        have zero : matched = 0 := by simpa using zero
        refine ⟨ends_zero _ _, fun other ends => ?_⟩
        cases other with
        | zero => omega
        | succ other =>
            obtain ⟨ends, here⟩ := ends_concat_succ.1 ends
            have := best other ends here
            have : other = matched := by omega
            exact absurd (this ▸ here) stopped
      · rename_i positive
        have positive : 0 < matched := by
          have : matched ≠ 0 := by simpa using positive
          omega
        obtain ⟨less, border, longest⟩ := right.2.2 matched positive bound
        -- The next candidate is the longest border of what is matched: no match lies between them.
        rw [if_pos less]
        refine isBest_advance_of right (by omega) ((ends_take_iff ends (by omega)).1 border) ?_
        intro other otherEnds here
        have := best other otherEnds here
        have : other ≠ matched := fun same => stopped (same ▸ here)
        exact longest other (by omega) ((ends_take_iff ends (by omega)).2 otherEnds)
termination_by matched => matched

theorem isBest_advance {pattern : Pattern} {known : Nat} (right : pattern.Knows known)
    {read : List Char} {matched : Nat} (bound : matched ≤ known)
    (best : IsBest pattern.characters.toList read matched) (character : Char) :
    IsBest pattern.characters.toList (read ++ [character]) (pattern.advance matched character) :=
  isBest_advance_of right bound best.1 fun other ends _ => best.2 other ends

/-! ## All borders -/

@[simp] theorem characters_addBorders (pattern : Pattern) (rest : List Char) (matched : Nat) :
    (pattern.addBorders rest matched).characters = pattern.characters := by
  induction rest generalizing pattern matched with
  | nil => rfl
  | cons character rest hypothesis => simp [addBorders, hypothesis]

@[simp] theorem characters_ofList (characters : List Char) :
    (ofList characters).characters = characters.toArray := by
  simp [ofList]

theorem IsBest.le_length {pattern read : List Char} {count : Nat}
    (best : IsBest pattern read count) : count ≤ read.length := by
  have := best.1.2.length_le
  have := best.1.1
  simp only [List.length_take] at *
  omega

theorem knows_push {pattern : Pattern} {known matched : Nat} (right : pattern.Knows known)
    (sized : pattern.borders.size = known) (inside : known < pattern.characters.size)
    (border : IsBorder pattern.characters.toList (known + 1) matched) :
    Knows { pattern with borders := pattern.borders.push matched } (known + 1) := by
  refine ⟨inside, by simp [sized], fun count positive bound => ?_⟩
  rcases Nat.lt_or_ge known count with last | earlier
  · have : count = known + 1 := by omega
    subst this
    subst sized
    simpa [Pattern.border] using border
  · have := right.2.2 count positive earlier
    simp only [Pattern.border, Array.getD_eq_getD_getElem?] at this ⊢
    rwa [Array.getElem?_push_lt (by omega), ← Array.getElem?_eq_getElem]

theorem knows_addBorders {pattern : Pattern} {matched : Nat} :
    ∀ {rest : List Char} {done : Nat}, pattern.characters.toList.tail.drop done = rest →
      pattern.borders.size = done + 1 → pattern.Knows (done + 1) →
      IsBest pattern.characters.toList (pattern.characters.toList.tail.take done) matched →
      Knows (pattern.addBorders rest matched) pattern.characters.size := by
  intro rest
  induction rest generalizing pattern matched with
  | nil =>
      intro done finished sized right _
      have inside := right.1
      have : pattern.characters.size = done + 1 := by
        have := List.drop_eq_nil_iff.1 finished
        simp only [List.length_tail, Array.length_toList] at this
        omega
      rw [addBorders, this]
      exact right
  | cons character rest hypothesis =>
      intro done remaining sized right best
      have inside : done < pattern.characters.toList.tail.length := by
        rcases Nat.lt_or_ge done pattern.characters.toList.tail.length with inside | outside
        · exact inside
        · rw [List.drop_eq_nil_of_le outside] at remaining
          simp at remaining
      have here : pattern.characters.toList.tail.take (done + 1) =
          pattern.characters.toList.tail.take done ++ [character] := by
        have := congrArg List.head? remaining
        rw [List.head?_drop] at this
        rw [List.take_add_one, this]
        rfl
      have size := inside
      simp only [List.length_tail, Array.length_toList] at size
      have bound : matched ≤ done + 1 := by
        have := best.le_length
        simp only [List.length_take] at this
        omega
      -- The pattern is matched against itself: each step needs only the borders found before.
      have next := isBest_advance right bound best character
      rw [← here] at next
      have border := (isBorder_iff_isBest (by simp; omega)).2 next
      rw [addBorders]
      have rest_eq : pattern.characters.toList.tail.drop (done + 1) = rest := by
        rw [← List.tail_drop, remaining, List.tail_cons]
      exact @hypothesis { pattern with borders := _ } _ (done + 1) rest_eq (by simp [sized])
        (knows_push right sized (by omega) border) next

theorem knows_ofList {characters : List Char} (nonempty : characters ≠ []) :
    (ofList characters).Knows characters.length := by
  have start : Knows { characters := characters.toArray, borders := #[0] } 1 := by
    have positive : 0 < characters.length := List.length_pos_iff.2 nonempty
    refine ⟨by simpa [Nat.succ_le_iff] using positive, by simp, fun count above bound => ?_⟩
    have : count = 0 + 1 := by omega
    subst this
    rw [isBorder_iff_isBest (by simpa using positive)]
    simpa [Pattern.border] using isBest_nil characters
  have := @knows_addBorders { characters := characters.toArray, borders := #[0] } 0
    characters.tail 0 (by simp) (by simp) start (by simpa using isBest_nil characters)
  simpa [ofList] using this

end Pattern

end MacroSandbox.Text
