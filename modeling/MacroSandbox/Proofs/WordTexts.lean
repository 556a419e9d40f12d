import MacroSandbox.Proofs.DigitTexts
import MacroSandbox.Text.Quoted

/-! Texts that are read from their start.

A text that is put in front of other characters can be read off again if one knows where it ends: words
end before a mark, quoted texts at the closing quotation mark, and texts in a row at the bracket behind
them. -/

namespace MacroSandbox.Text

/-! ## Words -/

def marks : List Char :=
  [' ', '\n', '"', '(', ')', '[', ']', '\x7b', '\x7d', ',', ';', ':']

def isMark (character : Char) : Bool :=
  marks.contains character

def IsUnmarked (text : List Char) : Prop :=
  ∀ character ∈ text, isMark character = false

instance : DecidablePred IsUnmarked :=
  fun text => List.decidableBAll (fun character => isMark character = false) text

/-- What may stand behind a word: nothing, or a mark. -/
def IsMarked (rest : List Char) : Prop :=
  ∀ character ∈ rest.head?, isMark character = true

theorem isMarked_cons {mark : Char} (isMark : isMark mark = true) (rest : List Char) :
    IsMarked (mark :: rest) := by
  rintro character ⟨⟩
  exact isMark

theorem isUnmarked_of_cons {character : Char} {text : List Char}
    (unmarked : IsUnmarked (character :: text)) : IsUnmarked text :=
  fun other member => unmarked other (List.mem_cons_of_mem _ member)

theorem eq_of_words {left right rest others : List Char} (isLeft : IsUnmarked left)
    (isRight : IsUnmarked right) (marked : IsMarked rest) (otherMarked : IsMarked others)
    (same : left ++ rest = right ++ others) : left = right ∧ rest = others := by
  have excluded {character : Char} {word beyond : List Char}
      (unmarked : IsUnmarked (character :: word)) (marked : IsMarked beyond)
      (starts : beyond.head? = some character) : False := by
    have isMark := marked character starts
    rw [unmarked character List.mem_cons_self] at isMark
    cases isMark
  induction left generalizing right with
  | nil =>
      cases right with
      | nil => exact ⟨rfl, same⟩
      | cons character right =>
          rw [List.nil_append] at same
          exact (excluded isRight marked (by simp [same])).elim
  | cons character left induction =>
      cases right with
      | nil =>
          rw [List.nil_append] at same
          exact (excluded isLeft otherMarked (by simp [← same])).elim
      | cons other right =>
          rw [List.cons_append, List.cons_append, List.cons.injEq] at same
          rcases induction (isUnmarked_of_cons isLeft) (isUnmarked_of_cons isRight) same.2 with
            ⟨sameWord, sameRest⟩
          exact ⟨by rw [same.1, sameWord], sameRest⟩

/-! ## Quoted texts -/

def escapes : List (Char × Char) :=
  [('"', '"'), ('\\', '\\'), ('\n', 'n'), ('\r', 'r'), ('\t', 't'), ('\x00', '0')]

inductive Escapes (character : Char) : List Char → Prop
  | plain (noQuote : character ≠ '"') (noBackslash : character ≠ '\\') : Escapes character [character]
  | letter {letter : Char} (listed : (character, letter) ∈ escapes) :
      Escapes character ['\\', letter]
  | code : Escapes character
      (['\\', 'u', '\x7b'] ++ Nat.toDigits 16 character.toNat ++ ['\x7d'])

theorem escapes_escapeCharacter (character : Char) : Escapes character (escapeCharacter character) := by
  unfold escapeCharacter
  split
  case h_7 noQuote noBackslash _ _ _ _ =>
    split
    · exact .plain noQuote noBackslash
    · exact .code
  all_goals exact .letter (by simp [escapes])

theorem toDigits_injective {left right : Nat} (same : Nat.toDigits 16 left = Nat.toDigits 16 right) :
    left = right := by
  have read (number : Nat) (small : number < left + right + 1) :
      Numeral.natural? 16 (left + right + 1) (Nat.toDigits 16 number) = some number := by
    rw [Numeral.natural?_toDigits (by decide) (by decide), if_pos small]
  have readLeft := read left (by omega)
  rw [same, read right (by omega)] at readLeft
  exact (Option.some.inj readLeft).symm

theorem isUnmarked_toDigits (number : Nat) : IsUnmarked (Nat.toDigits 16 number) := by
  intro character member
  rcases Numeral.exists_of_mem_toDigits (by decide) member with ⟨value, small, rfl⟩
  exact (by decide : ∀ value < 16, isMark (Nat.digitChar value) = false) value small

theorem eq_of_escapes {left right : Char} {written others rest beyond : List Char}
    (writes : Escapes left written) (writesToo : Escapes right others)
    (same : written ++ rest = others ++ beyond) : left = right ∧ rest = beyond := by
  cases writes with
  | plain noQuote noBackslash =>
      cases writesToo with
      | plain => simpa using same
      | letter | code => simp [noBackslash] at same
  | letter listed =>
      cases writesToo with
      | plain _ noBackslash => simp [noBackslash.symm] at same
      | letter listedToo =>
          simp only [List.cons_append, List.nil_append, List.cons.injEq, true_and] at same
          rcases same with ⟨rfl, sameRest⟩
          refine ⟨?_, sameRest⟩
          simp only [escapes, List.mem_cons, Prod.mk.injEq, List.not_mem_nil, or_false]
            at listed listedToo
          grind
      | code =>
          simp only [List.cons_append, List.nil_append, List.cons.injEq, true_and] at same
          rcases same with ⟨rfl, _⟩
          simp [escapes] at listed
  | code =>
      cases writesToo with
      | plain _ noBackslash => simp [noBackslash.symm] at same
      | letter listed =>
          simp only [List.cons_append, List.nil_append, List.cons.injEq, true_and] at same
          rcases same with ⟨rfl, _⟩
          simp [escapes] at listed
      | code =>
          simp only [List.append_assoc, List.cons_append, List.nil_append, List.cons.injEq, true_and]
            at same
          rcases eq_of_words (isUnmarked_toDigits _) (isUnmarked_toDigits _)
            (isMarked_cons rfl _) (isMarked_cons rfl _) same with ⟨sameDigits, sameRest⟩
          exact ⟨Char.toNat_inj.1 (toDigits_injective sameDigits), (List.cons.inj sameRest).2⟩

theorem head?_escapes {character : Char} {written : List Char} (writes : Escapes character written)
    (rest : List Char) : (written ++ rest).head? ≠ some '"' := by
  cases writes with
  | plain noQuote => simpa using noQuote
  | letter | code => simp

theorem eq_of_written : ∀ {left right rest beyond : List Char},
    left.flatMap escapeCharacter ++ '"' :: rest = right.flatMap escapeCharacter ++ '"' :: beyond →
      left = right ∧ rest = beyond
  | [], [], _, _, same => ⟨rfl, (List.cons.inj same).2⟩
  | [], other :: right, _, _, same => by
      rw [List.flatMap_nil, List.nil_append, List.flatMap_cons, List.append_assoc] at same
      exact absurd (congrArg List.head? same).symm (head?_escapes (escapes_escapeCharacter other) _)
  | character :: left, [], _, _, same => by
      rw [List.flatMap_cons, List.append_assoc, List.flatMap_nil, List.nil_append] at same
      exact absurd (congrArg List.head? same) (head?_escapes (escapes_escapeCharacter character) _)
  | character :: left, other :: right, _, _, same => by
      rw [List.flatMap_cons, List.append_assoc, List.flatMap_cons, List.append_assoc] at same
      rcases eq_of_escapes (escapes_escapeCharacter _) (escapes_escapeCharacter _) same with
        ⟨rfl, sameLater⟩
      rcases eq_of_written sameLater with ⟨rfl, sameRest⟩
      exact ⟨rfl, sameRest⟩

theorem eq_of_quoted {left right : String} {rest beyond : List Char}
    (same : (quoted left).toList ++ rest = (quoted right).toList ++ beyond) :
    left = right ∧ rest = beyond := by
  simp only [quoted, String.toList_append, toList_mapCharacters] at same
  have written : left.toList.flatMap escapeCharacter ++ '"' :: rest =
      right.toList.flatMap escapeCharacter ++ '"' :: beyond := by simpa using same
  rcases eq_of_written written with ⟨sameText, sameRest⟩
  exact ⟨String.toList_inj.1 sameText, sameRest⟩

/-! ## Texts in a row -/

def row : List (List Char) → List Char
  | [] => []
  | first :: later => first ++ later.flatMap ([',', ' '] ++ ·)

theorem toList_intercalate (texts : List String) :
    (String.intercalate ", " texts).toList = row (texts.map String.toList) := by
  rw [String.toList_intercalate]
  cases texts with
  | nil => rfl
  | cons first later =>
      rw [List.map_cons, row]
      induction later generalizing first with
      | nil => simp [List.intercalate]
      | cons second later induction =>
          rw [List.map_cons, List.intercalate_cons_of_ne_nil (by simp), induction second]
          simp

section

variable {α : Type} {left right : α → List Char} {close : Char} {Behind : List Char → Prop}
  {rest beyond : List Char}

variable (commas : ∀ rest, Behind (',' :: rest)) (closes : ∀ rest, Behind (close :: rest))

include commas closes

theorem behind_later (texts : List (List Char)) (rest : List Char) :
    Behind (texts.flatMap ([',', ' '] ++ ·) ++ close :: rest) := by
  cases texts with
  | nil => exact closes rest
  | cons => exact commas _

variable (noComma : close ≠ ',')

include noComma

theorem eq_of_later : ∀ {items others : List α},
    (∀ item ∈ items, ∀ other ∈ others, ∀ rest beyond, Behind rest → Behind beyond →
      left item ++ rest = right other ++ beyond → item = other ∧ rest = beyond) →
    (items.map left).flatMap ([',', ' '] ++ ·) ++ close :: rest =
      (others.map right).flatMap ([',', ' '] ++ ·) ++ close :: beyond →
    items = others ∧ rest = beyond
  | [], [], _, same => ⟨rfl, (List.cons.inj same).2⟩
  | [], _ :: _, _, same => absurd (List.cons.inj same).1 noComma
  | _ :: _, [], _, same => absurd (List.cons.inj same).1.symm noComma
  | item :: items, other :: others, reads, same => by
      simp only [List.map_cons, List.flatMap_cons, List.append_assoc, List.cons_append,
        List.nil_append, List.cons.injEq, true_and] at same
      rcases reads item List.mem_cons_self other List.mem_cons_self _ _
        (behind_later commas closes _ _) (behind_later commas closes _ _) same with ⟨rfl, sameLater⟩
      rcases eq_of_later (fun item member other memberToo => reads item
        (List.mem_cons_of_mem _ member) other (List.mem_cons_of_mem _ memberToo)) sameLater with
        ⟨rfl, sameRest⟩
      exact ⟨rfl, sameRest⟩

/-- Texts in a row are read off one after the other if each of them can be read off in front of a comma
and of the bracket behind the row, and no text looks like this bracket. -/
theorem eq_of_rows {items others : List α}
    (reads : ∀ item ∈ items, ∀ other ∈ others, ∀ rest beyond, Behind rest → Behind beyond →
      left item ++ rest = right other ++ beyond → item = other ∧ rest = beyond)
    (starts : ∀ item ∈ items, ∃ first later, left item = first :: later ∧ first ≠ close)
    (otherStarts : ∀ item ∈ others, ∃ first later, right item = first :: later ∧ first ≠ close)
    (same : row (items.map left) ++ close :: rest = row (others.map right) ++ close :: beyond) :
    items = others ∧ rest = beyond := by
  cases items with
  | nil =>
      cases others with
      | nil => exact ⟨rfl, (List.cons.inj same).2⟩
      | cons other others =>
          rcases otherStarts other List.mem_cons_self with ⟨first, after, isFirst, differs⟩
          rw [List.map_cons, row, isFirst] at same
          exact absurd (List.cons.inj same).1.symm differs
  | cons item items =>
      cases others with
      | nil =>
          rcases starts item List.mem_cons_self with ⟨first, after, isFirst, differs⟩
          rw [List.map_cons, row, isFirst] at same
          exact absurd (List.cons.inj same).1 differs
      | cons other others =>
          rw [List.map_cons, List.map_cons, row, row, List.append_assoc, List.append_assoc] at same
          rcases reads item List.mem_cons_self other List.mem_cons_self _ _
            (behind_later commas closes _ _) (behind_later commas closes _ _) same with
            ⟨rfl, sameLater⟩
          rcases eq_of_later commas closes noComma (fun item member other memberToo => reads item
            (List.mem_cons_of_mem _ member) other (List.mem_cons_of_mem _ memberToo)) sameLater with
            ⟨rfl, sameRest⟩
          exact ⟨rfl, sameRest⟩

end

end MacroSandbox.Text
