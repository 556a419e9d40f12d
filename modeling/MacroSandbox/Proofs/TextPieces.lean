import MacroSandbox.Library.Pure
import Mathlib

/-! The pieces into which a text is cut, and the texts that pieces make up.

`Split` cuts a text at the occurrences of a delimiter, which it takes from the left and lets not
overlap, and `Join` puts a separator between the texts of a list. Main statement:
`split_join_replace`, by which the two undo each other and `Replace` is one after the other. -/

namespace MacroSandbox

namespace Text

variable {delimiter : List Char}

/-! ## Joining what was cut -/

theorem cutFrom_ne_nil (delimiter : List Char) :
    ∀ characters piece : List Char, cutFrom delimiter characters piece ≠ []
  | [], piece => by simp [cutFrom]
  | character :: rest, piece => by
      rw [cutFrom]
      split
      · exact List.cons_ne_nil _ _
      · exact cutFrom_ne_nil delimiter rest _

theorem intercalate_cutFrom (delimiter : List Char) :
    ∀ characters piece : List Char,
      delimiter.intercalate (cutFrom delimiter characters piece) = piece ++ characters
  | [], piece => by simp [cutFrom]
  | character :: rest, piece => by
      rw [cutFrom]
      split
      · rename_i isSuffix
        obtain ⟨before, ends⟩ := List.isSuffixOf_iff_suffix.1 isSuffix
        rw [List.intercalate_cons_of_ne_nil (cutFrom_ne_nil _ _ _),
          intercalate_cutFrom delimiter rest, ← ends]
        simp only [List.length_append, Nat.add_sub_cancel, List.take_left, List.nil_append]
        rw [ends, List.append_assoc, List.singleton_append]
      · rw [intercalate_cutFrom delimiter rest, List.append_assoc, List.singleton_append]

theorem intercalate_splitOn (delimiter text : String) :
    String.intercalate delimiter (splitOn delimiter text).toList = text := by
  by_cases empty : delimiter = ""
  · simp [splitOn, empty]
  · rw [← String.toList_inj, String.toList_intercalate, map_toList_splitOn empty,
      intercalate_cutFrom, List.nil_append]

/-! ## What a piece holds -/

/-- A piece ends as soon as the delimiter occurs in what was read of it, so the delimiter occurs in
no piece. -/
theorem not_infix_of_mem_cutFrom (nonempty : delimiter ≠ []) :
    ∀ {characters start : List Char}, ¬ delimiter <:+: start →
      ∀ piece ∈ cutFrom delimiter characters start, ¬ delimiter <:+: piece
  | [], start, absent, piece, member => by
      rw [cutFrom, List.mem_singleton] at member
      rwa [member]
  | character :: rest, start, absent, piece, member => by
      have noneYet : ¬ delimiter <:+: [] := by simpa using nonempty
      rw [cutFrom] at member
      split at member
      · rename_i ends
        rcases List.mem_cons.1 member with rfl | later
        · -- The last character is one of the delimiter, so the piece is a part of the start.
          have positive : 0 < delimiter.length := List.length_pos_iff.2 nonempty
          have shorter : (start ++ [character]).length - delimiter.length ≤ start.length := by
            simp only [List.length_append, List.length_singleton]
            omega
          rw [List.take_append_of_le_length shorter]
          exact fun occurs => absent (occurs.trans (List.take_prefix _ _).isInfix)
        · exact not_infix_of_mem_cutFrom nonempty noneYet piece later
      · rename_i goesOn
        refine not_infix_of_mem_cutFrom nonempty ?_ piece member
        rw [List.infix_concat_iff, List.isSuffixOf_iff_suffix] at *
        exact not_or.2 ⟨goesOn, absent⟩

theorem not_infix_of_mem_splitOn {delimiter text piece : String} (nonempty : delimiter ≠ "")
    (member : piece ∈ (splitOn delimiter text).toList) :
    ¬ delimiter.toList <:+: piece.toList := by
  have characters : delimiter.toList ≠ [] := by simpa using nonempty
  have isPiece := List.mem_map_of_mem (f := String.toList) member
  rw [map_toList_splitOn nonempty] at isPiece
  exact not_infix_of_mem_cutFrom characters (by simpa using characters) _ isPiece

/-! ## Cutting what was joined -/

theorem cutFrom_singleton (mark : Char) : ∀ characters start : List Char,
    cutFrom [mark] characters start = characters.splitOnPPrepend (· == mark) start.reverse
  | [], start => by simp [cutFrom]
  | character :: rest, start => by
      have ends : [mark].isSuffixOf (start ++ [character]) = (character == mark) := by
        rw [Bool.eq_iff_iff, List.isSuffixOf_iff_suffix, beq_iff_eq,
          ← List.nil_append [mark], Pattern.concat_suffix_concat]
        simp [eq_comm]
      rw [cutFrom, ends, cutFrom_singleton mark rest, cutFrom_singleton mark rest,
        List.splitOnPPrepend_cons_eq_if]
      split <;> simp

theorem splitOn_intercalate {mark : Char} {texts : List String} (nonempty : texts ≠ [])
    (absent : ∀ text ∈ texts, mark ∉ text.toList) :
    (splitOn (String.singleton mark)
      (String.intercalate (String.singleton mark) texts)).toList = texts := by
  apply (List.map_inj_right fun _ _ => String.toList_inj.1).1
  rw [map_toList_splitOn (by simp), String.toList_intercalate, String.toList_singleton,
    cutFrom_singleton]
  exact List.splitOn_intercalate mark (by simpa using absent) (by simpa using nonempty)

end Text

/-! ## Lists of texts -/

namespace Heap

variable {heap : Heap} {value : Value} {texts : List String}

theorem contentsWithin_eq_text_iff {depth : Nat} {content : String} :
    heap.contentsWithin depth value = .text content ↔ value = .text content := by
  cases depth <;> cases value <;> simp [contentsWithin]

theorem map_contentsWithin_eq_texts_iff {depth : Nat} {items : List Value} :
    items.map (heap.contentsWithin depth) = texts.map Datum.text ↔
      items = texts.map Value.text := by
  induction items generalizing texts with
  | nil => cases texts <;> simp
  | cons item rest induction =>
      cases texts with
      | nil => simp
      | cons text texts => simp [contentsWithin_eq_text_iff, induction]

theorem contents_eq_texts_iff :
    heap.contents value = .list (texts.map Datum.text) ↔
      ∃ place, value = .list place ∧ (heap.list place).toList = texts.map Value.text := by
  cases value with
  | list place => simp [contents, depthBound, contentsWithin, map_contentsWithin_eq_texts_iff]
  | _ => simp [contents, depthBound, contentsWithin]

end Heap

namespace ScalarRoutine

theorem compute_join {heap : Heap} {list : Value} {texts : List String}
    (holds : heap.contents list = .list (texts.map Datum.text)) (separator : String) :
    join.compute heap [list, .text separator] =
      .ok (.text (String.intercalate separator texts)) := by
  obtain ⟨place, rfl, items⟩ := Heap.contents_eq_texts_iff.1 holds
  have sources : itemTexts heap (.list place) = texts := by
    rw [itemTexts, items, List.map_map]
    exact List.map_id texts
  rw [← sources]
  rfl

theorem compute_replace (heap : Heap) (text pattern replacement : String) :
    replace.compute heap [.text text, .text pattern, .text replacement] =
      .ok (.text (String.intercalate replacement (Text.splitOn pattern text).toList)) := by
  rw [← Text.replace_eq_intercalate]
  rfl

end ScalarRoutine

theorem PureRoutine.apply_split (heap : Heap) (text delimiter : String) :
    ∃ list later, split.apply [.text text, .text delimiter] heap = (.ok list, later) ∧
      later.contents list = .list ((Text.splitOn delimiter text).toList.map Datum.text) := by
  have stored (items : Array Value) :
      (heap.newList items).2.list heap.lists.size = items := by simp [Heap.list, Heap.newList]
  refine ⟨_, _, rfl, Heap.contents_eq_texts_iff.2 ⟨_, rfl, ?_⟩⟩
  rw [← Array.toList_map]
  exact congrArg Array.toList (stored _)

/-- Joining the pieces of a text with its delimiter gives the text. No piece contains a delimiter that
is not empty, and joining the pieces with another text is to replace the delimiter by it. What is
joined with a character that it does not contain is cut at the character into what it was. -/
theorem split_join_replace (heap : Heap) :
    (∀ text delimiter : String, ∃ list later, ∃ pieces : List String,
      PureRoutine.split.apply [.text text, .text delimiter] heap = (.ok list, later) ∧
        later.contents list = .list (pieces.map Datum.text) ∧
        ScalarRoutine.join.compute later [list, .text delimiter] = .ok (.text text) ∧
        (delimiter ≠ "" →
          (∀ piece ∈ pieces, ¬ delimiter.toList <:+: piece.toList) ∧
            ∀ replacement : String,
              ScalarRoutine.replace.compute heap
                  [.text text, .text delimiter, .text replacement] =
                ScalarRoutine.join.compute later [list, .text replacement])) ∧
      ∀ (texts : List String) (mark : Char) (list : Value),
        heap.contents list = .list (texts.map Datum.text) → texts ≠ [] →
        (∀ text ∈ texts, mark ∉ text.toList) →
        ∃ joined again later,
          ScalarRoutine.join.compute heap [list, .text (String.singleton mark)] =
              .ok (.text joined) ∧
            PureRoutine.split.apply [.text joined, .text (String.singleton mark)] heap =
              (.ok again, later) ∧
            later.contents again = .list (texts.map Datum.text) := by
  constructor
  · intro text delimiter
    obtain ⟨list, later, cut, holds⟩ := PureRoutine.apply_split heap text delimiter
    refine ⟨list, later, _, cut, holds, ?_, fun nonempty => ⟨fun piece => ?_, fun replacement => ?_⟩⟩
    · rw [ScalarRoutine.compute_join holds, Text.intercalate_splitOn]
    · exact Text.not_infix_of_mem_splitOn nonempty
    · rw [ScalarRoutine.compute_replace, ScalarRoutine.compute_join holds]
  · intro texts mark list holds nonempty absent
    obtain ⟨again, later, cut, pieces⟩ := PureRoutine.apply_split heap
      (String.intercalate (String.singleton mark) texts) (String.singleton mark)
    rw [Text.splitOn_intercalate nonempty absent] at pieces
    exact ⟨_, again, later, ScalarRoutine.compute_join holds _, cut, pieces⟩

/-- Of two occurrences that overlap the left one is cut out, and pieces may be empty. -/
theorem split_join_replace_overlapping :
    let heap : Heap := { lists := #[#[.text "", .text "b", .text ""]] }
    "aa" ≠ "" ∧ heap.contents (.list 0) = .list (["", "b", ""].map Datum.text) ∧
      ["", "b", ""] ≠ [] ∧ (∀ text ∈ ["", "b", ""], ',' ∉ text.toList) ∧
      (∃ list later,
        PureRoutine.split.apply [.text "xaaay", .text "aa"] heap = (.ok list, later) ∧
          ScalarRoutine.join.compute later [list, .text "aa"] = .ok (.text "xaaay") ∧
          ScalarRoutine.join.compute later [list, .text "-"] = .ok (.text "x-ay")) ∧
      ∃ again later,
        PureRoutine.split.apply [.text ",b,", .text ","] heap = (.ok again, later) ∧
          later.contents again = .list (["", "b", ""].map Datum.text) := by
  intro heap
  have nonempty : "aa" ≠ "" := by decide
  have holds : heap.contents (.list 0) = .list (["", "b", ""].map Datum.text) := rfl
  have absent : ∀ text ∈ ["", "b", ""], ',' ∉ text.toList := by decide
  have replaced : ScalarRoutine.replace.compute heap [.text "xaaay", .text "aa", .text "-"] =
      .ok (.text "x-ay") := by cbv
  obtain ⟨cuts, joins⟩ := split_join_replace heap
  obtain ⟨list, later, pieces, cut, -, joined, parts⟩ := cuts "xaaay" "aa"
  obtain ⟨text, again, other, made, recut, same⟩ := joins _ _ _ holds (by decide) absent
  have isMade : text = ",b," := by
    have known : ScalarRoutine.join.compute heap [.list 0, .text ","] = .ok (.text ",b,") := by cbv
    exact Value.text.inj (Except.ok.inj (made.symm.trans known))
  rw [isMade] at recut
  exact ⟨nonempty, holds, by decide, absent,
    ⟨list, later, cut, joined, ((parts nonempty).2 "-").symm.trans replaced⟩, again, other, recut,
    same⟩

end MacroSandbox
