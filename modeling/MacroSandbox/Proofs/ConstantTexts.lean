import MacroSandbox.Loop.Program
import MacroSandbox.Proofs.MarkedNumbers
import MacroSandbox.Proofs.WordTexts
import MacroSandbox.Proofs.Separation

/-! The texts of constants of loop programs, from which the constants can be read off, unless they hold
objects, or floating-point numbers that are written alike. -/

namespace MacroSandbox

open Text

/-! ## Numbers -/

def Float.AreToldApart (floats : Float → Prop) : Prop :=
  ∀ left right, floats left → floats right → markedFloatText left = markedFloatText right →
    left = right

def IsNumberStart (character : Char) : Prop :=
  character.isDigit = true ∨ character = '-'

instance : DecidablePred IsNumberStart :=
  fun character => inferInstanceAs (Decidable (character.isDigit = true ∨ character = '-'))

def startsAsNumber (text : List Char) : Bool :=
  text.head?.any fun first => decide (IsNumberStart first)

theorem not_isNumberStart {words : List (List Char)}
    (noNumbers : words.all (!startsAsNumber ·) = true) {word : List Char} (listed : word ∈ words)
    {first : Char} (starts : word.head? = some first) : ¬ IsNumberStart first := by
  have noNumber := List.all_eq_true.1 noNumbers word listed
  rw [startsAsNumber, starts] at noNumber
  simpa using noNumber

theorem isMark_of_isDigit {character : Char} (isDigit : character.isDigit = true) :
    isMark character = false := by
  have noDigits : marks.all (!·.isDigit) = true := by decide
  apply Bool.eq_false_iff.2
  intro marked
  have noDigit := List.all_eq_true.1 noDigits character (List.contains_iff_mem.1 marked)
  rw [isDigit] at noDigit
  cases noDigit

namespace IsFraction

variable {text : List Char}

theorem isUnmarked (isFraction : IsFraction text) : IsUnmarked text := by
  cases isFraction with
  | special listed =>
      simp only [List.mem_cons, List.not_mem_nil, or_false] at listed
      rcases listed with rfl | rfl | rfl <;> decide +kernel
  | @number sign digits after digit mark isSign isDigit areDigits isMark unmarked =>
      have isMarkMark : Text.isMark mark = false := by rcases isMark with rfl | rfl <;> rfl
      intro character member
      simp only [List.mem_append, List.mem_cons] at member
      rcases member with inSign | rfl | inDigits | rfl | inAfter
      · rcases isSign with rfl | rfl
        · cases inSign
        · rw [List.mem_singleton.1 inSign]
          rfl
      · exact isMark_of_isDigit isDigit
      · exact isMark_of_isDigit (areDigits _ inDigits)
      · exact isMarkMark
      · rcases unmarked _ inAfter with isDigit | listed
        · exact isMark_of_isDigit isDigit
        · exact (by decide : IsUnmarked ['.', 'e', '-']) _ listed

theorem starts (isFraction : IsFraction text) :
    text ∈ [['N', 'a', 'N'], ['i', 'n', 'f']] ∨
      ∃ first later, text = first :: later ∧ IsNumberStart first := by
  cases isFraction with
  | special listed =>
      simp only [List.mem_cons, List.not_mem_nil, or_false] at listed ⊢
      rcases listed with rfl | rfl | rfl
      · exact .inl (.inl rfl)
      · exact .inl (.inr rfl)
      · exact .inr ⟨'-', ['i', 'n', 'f'], rfl, .inr rfl⟩
  | number isSign isDigit =>
      rcases isSign with rfl | rfl
      · exact .inr ⟨_, _, rfl, .inl isDigit⟩
      · exact .inr ⟨_, _, rfl, .inr rfl⟩

theorem ne_toString (isFraction : IsFraction text) (number : Int) : (toString number).toList ≠ text := by
  have only := @Int.forall_mem_toString (fun character => IsNumberStart character) (.inr rfl)
    (fun value small => .inl (by revert value; decide)) number
  rintro rfl
  have excluded {character : Char} (noDigit : character.isDigit = false) (noSign : character ≠ '-')
      (member : character ∈ (toString number).toList) : False := by
    rcases only character member with isDigit | isSign
    · rw [noDigit] at isDigit
      cases isDigit
    · exact noSign isSign
  generalize (toString number).toList = text at isFraction excluded
  cases isFraction with
  | special listed =>
      simp only [List.mem_cons, List.not_mem_nil, or_false] at listed
      rcases listed with rfl | rfl | rfl
      · exact @excluded 'N' rfl (by decide) (by decide)
      · exact @excluded 'i' rfl (by decide) (by decide)
      · exact @excluded 'i' rfl (by decide) (by decide)
  | @number sign digits after digit mark isSign isDigit areDigits isMark unmarked =>
      have member : mark ∈ sign ++ digit :: (digits ++ mark :: after) := by simp
      rcases isMark with rfl | rfl
      · exact excluded rfl (by decide) member
      · exact excluded rfl (by decide) member

end IsFraction

theorem Int.isUnmarked_toString (number : Int) : IsUnmarked (toString number).toList :=
  Int.forall_mem_toString (by decide) (by decide) number

theorem Int.starts_toString (number : Int) :
    ∃ first later, (toString number).toList = first :: later ∧ IsNumberStart first := by
  rcases List.exists_cons_of_ne_nil (Int.toList_toString_ne_nil number) with ⟨first, later, starts⟩
  have only := @Int.forall_mem_toString (fun character => IsNumberStart character) (.inr rfl)
    (fun value small => .inl (by revert value; decide)) number
  exact ⟨first, later, starts, only first (starts ▸ List.mem_cons_self)⟩

/-! ## Data -/

namespace Datum

mutual

def written : Datum → List Char
  | .integer value => (toString value.toInt).toList
  | .float value => (markedFloatText value).toList
  | .text value => (quoted value).toList
  | .boolean value => (toString value).toList
  | .list items => '[' :: (row (writtenAll items) ++ [']'])
  | .map keys values =>
      '\x7b' :: (row ((keys.zip (writtenAll values)).map fun (key, value) =>
        (quoted key).toList ++ ':' :: ' ' :: value) ++ ['\x7d'])
  | .null | .unresolved => ['n', 'u', 'l', 'l']
  | .object _ className => ['o', 'b', 'j', 'e', 'c', 't', ' '] ++ className.toList

def writtenAll : List Datum → List (List Char)
  | [] => []
  | datum :: rest => datum.written :: writtenAll rest

end

theorem writtenAll_eq_map (data : List Datum) : writtenAll data = data.map written := by
  induction data with
  | nil => rfl
  | cons datum rest induction => rw [writtenAll, induction, List.map_cons]

def writtenEntry (entry : String × Datum) : List Char :=
  (quoted entry.1).toList ++ ':' :: ' ' :: entry.2.written

theorem written_map (keys : List String) (values : List Datum) :
    written (.map keys values) = '\x7b' :: (row ((keys.zip values).map writtenEntry) ++ ['\x7d']) := by
  rw [written, writtenAll_eq_map, List.zip_map_right, List.map_map]
  rfl

mutual

/-- A datum has no objects in it, and no floating-point numbers but certain ones. -/
def IsPlain (floats : Float → Prop) : Datum → Prop
  | .float value => floats value
  | .list items => ArePlain floats items
  | .map keys values => values.length = keys.length ∧ ArePlain floats values
  | .object .. | .unresolved => False
  | _ => True

def ArePlain (floats : Float → Prop) : List Datum → Prop
  | [] => True
  | datum :: rest => datum.IsPlain floats ∧ ArePlain floats rest

end

theorem arePlain_iff {floats : Float → Prop} {data : List Datum} :
    ArePlain floats data ↔ ∀ datum ∈ data, datum.IsPlain floats := by
  induction data with
  | nil => simp [ArePlain]
  | cons datum rest induction => simp [ArePlain, induction]

end Datum

/-- The text of a constant is that of what it holds. -/
theorem Heap.toList_constantWithin (heap : Heap) (depth : Nat) (value : Value) :
    (heap.constantWithin depth value).toList = (heap.contentsWithin depth value).written := by
  induction depth generalizing value with
  | zero => cases value <;> simp [constantWithin, contentsWithin, Datum.written, Datum.writtenAll, row]
  | succ depth induction =>
      cases value with
      | list place =>
          have same : ((heap.list place).toList.map (heap.constantWithin depth)).map String.toList =
              Datum.writtenAll ((heap.list place).toList.map (heap.contentsWithin depth)) := by
            rw [Datum.writtenAll_eq_map, List.map_map, List.map_map]
            exact List.map_congr_left fun value _ => induction value
          simp only [constantWithin, contentsWithin, Datum.written, String.toList_append,
            toList_intercalate, same]
          rfl
      | map place =>
          rw [constantWithin, contentsWithin, Datum.written_map, String.toList_append,
            String.toList_append, toList_intercalate]
          apply congrArg fun texts => '\x7b' :: (row texts ++ ['\x7d'])
          rw [← Std.TreeMap.map_fst_toList_eq_keys, values_eq_map_toList, List.map_map, List.map_map,
            List.zip_map', List.map_map]
          refine List.map_congr_left fun entry _ => ?_
          simp [Datum.writtenEntry, induction]
      | _ => simp [constantWithin, contentsWithin, Datum.written]

theorem Heap.toList_constant (heap : Heap) (value : Value) :
    (heap.constant value).toList = (heap.contents value).written :=
  heap.toList_constantWithin heap.depthBound value

/-! ## Reading data off -/

namespace Datum

variable {floats : Float → Prop}

inductive IsWord : Datum → List Char → Prop
  | integer (value : Int64) : IsWord (.integer value) (toString value.toInt).toList
  | float (value : Float) : IsWord (.float value) (markedFloatText value).toList
  | boolean (value : Bool) : IsWord (.boolean value) (toString value).toList
  | null : IsWord .null ['n', 'u', 'l', 'l']

def logicalWords : List (List Char) :=
  [['t', 'r', 'u', 'e'], ['f', 'a', 'l', 's', 'e'], ['n', 'u', 'l', 'l']]

def constantWords : List (List Char) :=
  [['N', 'a', 'N'], ['i', 'n', 'f']] ++ logicalWords

namespace IsWord

variable {datum other : Datum} {word text : List Char}

theorem isUnmarked (isWord : datum.IsWord word) : IsUnmarked word := by
  cases isWord with
  | integer value => exact Int.isUnmarked_toString _
  | float value => exact (Binary64.isFraction_marked _).isUnmarked
  | boolean value => cases value <;> decide +kernel
  | null => decide +kernel

/-- A word starts as a number, or it is one of a few words. -/
theorem starts (isWord : datum.IsWord word) :
    word ∈ constantWords ∨
      ∃ first later, word = first :: later ∧ IsNumberStart first := by
  cases isWord with
  | integer value => exact .inr (Int.starts_toString _)
  | float value =>
      rcases (Binary64.isFraction_marked (Binary64.ofFloat value)).starts with listed | starts
      · refine .inl ((?_ : [['N', 'a', 'N'], ['i', 'n', 'f']] ⊆ constantWords) listed)
        decide
      · exact .inr starts
  | boolean value => cases value <;> exact .inl (by decide)
  | null => exact .inl (by decide)

theorem exists_cons (isWord : datum.IsWord word) : ∃ first later, word = first :: later := by
  rcases isWord.starts with listed | ⟨first, later, starts, _⟩
  · have nonempty : ∀ listed ∈ constantWords, listed ≠ [] := by decide
    exact List.exists_cons_of_ne_nil (nonempty word listed)
  · exact ⟨first, later, starts⟩

theorem not_listed_of_number {word : List Char} (isWord : datum.IsWord word)
    (isNumber : (∃ value, datum = .integer value) ∨ ∃ value, datum = .float value) :
    word ∉ logicalWords := by
  have noNumber : ∀ listed ∈ logicalWords,
      listed ∈ constantWords ∧ listed ∉ [['N', 'a', 'N'], ['i', 'n', 'f']] := by decide
  intro listed
  have notStarting (starts : ∃ first later, word = first :: later ∧ IsNumberStart first) : False := by
    rcases starts with ⟨first, later, rfl, isStart⟩
    exact not_isNumberStart (by decide) (noNumber _ listed).1 rfl isStart
  cases isWord with
  | integer value => exact notStarting (Int.starts_toString _)
  | float value =>
      rcases (Binary64.isFraction_marked (Binary64.ofFloat value)).starts with special | starts
      · exact (noNumber _ listed).2 special
      · exact notStarting starts
  | boolean | null => rcases isNumber with ⟨_, ⟨⟩⟩ | ⟨_, ⟨⟩⟩

theorem eq (apart : Float.AreToldApart floats) (isWord : datum.IsWord word)
    (otherIsWord : other.IsWord text) (plain : datum.IsPlain floats) (otherPlain : other.IsPlain floats)
    (same : word = text) : datum = other := by
  have listedBoolean (value : Bool) : (toString value).toList ∈ logicalWords := by
    cases value <;> decide
  have listedNull : ['n', 'u', 'l', 'l'] ∈ logicalWords := by decide
  cases isWord with
  | integer value =>
      have notListed := (IsWord.integer value).not_listed_of_number (.inl ⟨value, rfl⟩)
      rw [same] at notListed
      cases otherIsWord with
      | integer other =>
          have sameText := String.toList_inj.1 same
          exact congrArg Datum.integer (Int64.toInt_inj.1 (Int.repr_inj.1 sameText))
      | float other => exact absurd same ((Binary64.isFraction_marked _).ne_toString _)
      | boolean other => exact absurd (listedBoolean other) notListed
      | null => exact absurd listedNull notListed
  | float value =>
      have notListed := (IsWord.float value).not_listed_of_number (.inr ⟨value, rfl⟩)
      rw [same] at notListed
      cases otherIsWord with
      | integer other => exact absurd same.symm ((Binary64.isFraction_marked _).ne_toString _)
      | float other =>
          exact congrArg Datum.float (apart _ _ plain otherPlain (String.toList_inj.1 same))
      | boolean other => exact absurd (listedBoolean other) notListed
      | null => exact absurd listedNull notListed
  | boolean value =>
      have listed := listedBoolean value
      rw [same] at listed
      cases otherIsWord with
      | integer other =>
          exact absurd listed ((IsWord.integer other).not_listed_of_number (.inl ⟨other, rfl⟩))
      | float other =>
          exact absurd listed ((IsWord.float other).not_listed_of_number (.inr ⟨other, rfl⟩))
      | boolean other => cases value <;> cases other <;> first | rfl | cases same
      | null => cases value <;> cases same
  | null =>
      have listed := listedNull
      rw [same] at listed
      cases otherIsWord with
      | integer other =>
          exact absurd listed ((IsWord.integer other).not_listed_of_number (.inl ⟨other, rfl⟩))
      | float other =>
          exact absurd listed ((IsWord.float other).not_listed_of_number (.inr ⟨other, rfl⟩))
      | boolean other => cases other <;> cases same
      | null => rfl

end IsWord

inductive Opens : Datum → Char → Prop
  | text (value : String) : Opens (.text value) '"'
  | list (items : List Datum) : Opens (.list items) '['
  | map (keys : List String) (values : List Datum) : Opens (.map keys values) '\x7b'

theorem isWord_or_opens {datum : Datum} (plain : datum.IsPlain floats) :
    (∃ word, datum.IsWord word) ∨ ∃ mark, datum.Opens mark := by
  cases datum with
  | integer value => exact .inl ⟨_, .integer value⟩
  | float value => exact .inl ⟨_, .float value⟩
  | boolean value => exact .inl ⟨_, .boolean value⟩
  | null => exact .inl ⟨_, .null⟩
  | text value => exact .inr ⟨_, .text value⟩
  | list items => exact .inr ⟨_, .list items⟩
  | map keys values => exact .inr ⟨_, .map keys values⟩
  | object | unresolved => cases plain

theorem Opens.exists_cons {datum : Datum} {mark : Char} (opens : datum.Opens mark) :
    ∃ later, datum.written = mark :: later := by
  cases opens with
  | text value => exact ⟨_, by rw [written, quoted, String.toList_append, String.toList_append]; rfl⟩
  | list | map => exact ⟨_, rfl⟩

theorem IsWord.written_eq {datum : Datum} {word : List Char} (isWord : datum.IsWord word) :
    datum.written = word := by
  cases isWord <;> rw [written]

/-- What a datum is written with in front: a mark only if it opens something. -/
theorem starts_written {datum : Datum} (plain : datum.IsPlain floats) :
    ∃ first later, datum.written = first :: later ∧
      (isMark first = true → first ∈ ['"', '[', '\x7b']) := by
  rcases isWord_or_opens plain with ⟨word, isWord⟩ | ⟨mark, opens⟩
  · rcases isWord.exists_cons with ⟨first, later, rfl⟩
    refine ⟨first, later, isWord.written_eq, fun isMark => ?_⟩
    rw [isWord.isUnmarked first List.mem_cons_self] at isMark
    cases isMark
  · rcases opens.exists_cons with ⟨later, starts⟩
    exact ⟨mark, later, starts, fun _ => by cases opens <;> decide⟩

theorem starts_closed {datum : Datum} (plain : datum.IsPlain floats) {close : Char}
    (closes : close = ']' ∨ close = '\x7d') :
    ∃ first later, datum.written = first :: later ∧ first ≠ close := by
  rcases starts_written plain with ⟨first, later, starts, opens⟩
  refine ⟨first, later, starts, ?_⟩
  rintro rfl
  rcases closes with rfl | rfl
  · exact absurd (opens rfl) (by decide)
  · exact absurd (opens rfl) (by decide)

theorem IsWord.eq_of_written (apart : Float.AreToldApart floats) {left right : Datum}
    {word rest beyond : List Char} (isWord : left.IsWord word) (plain : left.IsPlain floats)
    (otherPlain : right.IsPlain floats) (marked : IsMarked rest) (otherMarked : IsMarked beyond)
    (same : left.written ++ rest = right.written ++ beyond) : left = right ∧ rest = beyond := by
  rw [isWord.written_eq] at same
  rcases isWord_or_opens otherPlain with ⟨text, otherIsWord⟩ | ⟨mark, opens⟩
  · rw [otherIsWord.written_eq] at same
    rcases eq_of_words isWord.isUnmarked otherIsWord.isUnmarked marked otherMarked same with
      ⟨sameWord, sameRest⟩
    exact ⟨isWord.eq apart otherIsWord plain otherPlain sameWord, sameRest⟩
  · rcases isWord.exists_cons with ⟨first, after, rfl⟩
    rcases opens.exists_cons with ⟨later, starts⟩
    rw [starts] at same
    have unmarked := isWord.isUnmarked first List.mem_cons_self
    rw [(List.cons.inj same).1] at unmarked
    cases opens <;> cases unmarked

theorem Opens.opens_of_written (apart : Float.AreToldApart floats) {left right : Datum}
    {mark : Char} {rest beyond : List Char} (opens : left.Opens mark) (plain : left.IsPlain floats)
    (otherPlain : right.IsPlain floats) (marked : IsMarked rest) (otherMarked : IsMarked beyond)
    (same : left.written ++ rest = right.written ++ beyond) : right.Opens mark := by
  rcases isWord_or_opens otherPlain with ⟨word, isWord⟩ | ⟨other, otherOpens⟩
  · cases (isWord.eq_of_written apart otherPlain plain otherMarked marked same.symm).1
    cases opens <;> cases isWord
  · rcases opens.exists_cons with ⟨later, starts⟩
    rcases otherOpens.exists_cons with ⟨after, otherStarts⟩
    rw [starts, otherStarts] at same
    rwa [(List.cons.inj same).1]

/-- A datum is told from all others by how it is written, in front of a mark. -/
def IsReadOff (floats : Float → Prop) (left : Datum) : Prop :=
  ∀ (right : Datum) (rest beyond : List Char), left.IsPlain floats → right.IsPlain floats →
    IsMarked rest → IsMarked beyond → left.written ++ rest = right.written ++ beyond →
    left = right ∧ rest = beyond

section

variable {rest beyond : List Char}

theorem eq_of_lists {items others : List Datum} (reads : ∀ item ∈ items, item.IsReadOff floats)
    (plain : ArePlain floats items) (otherPlain : ArePlain floats others)
    (same : written (.list items) ++ rest = written (.list others) ++ beyond) :
    items = others ∧ rest = beyond := by
  have inItems := arePlain_iff.1 plain
  have inOthers := arePlain_iff.1 otherPlain
  simp only [written, writtenAll_eq_map, List.cons_append, List.append_assoc, List.nil_append,
    List.cons.injEq, true_and] at same
  apply eq_of_rows (isMarked_cons rfl) (isMarked_cons rfl) (by decide) _ _ _ same
  · exact fun item member other memberToo rest beyond =>
      reads item member other rest beyond (inItems item member) (inOthers other memberToo)
  · exact fun item member => starts_closed (inItems item member) (.inl rfl)
  · exact fun item member => starts_closed (inOthers item member) (.inl rfl)

theorem starts_writtenEntry (entry : String × Datum) :
    ∃ first later, writtenEntry entry = first :: later ∧ first ≠ '\x7d' := by
  rcases (Opens.text entry.1).exists_cons with ⟨later, opens⟩
  rw [written] at opens
  exact ⟨'"', later ++ ':' :: ' ' :: entry.2.written, by rw [writtenEntry, opens]; rfl, by decide⟩

theorem eq_of_maps {keys otherKeys : List String} {values others : List Datum}
    (reads : ∀ value ∈ values, value.IsReadOff floats)
    (plain : (Datum.map keys values).IsPlain floats)
    (otherPlain : (Datum.map otherKeys others).IsPlain floats)
    (same : written (.map keys values) ++ rest = written (.map otherKeys others) ++ beyond) :
    Datum.map keys values = .map otherKeys others ∧ rest = beyond := by
  have inValues := arePlain_iff.1 plain.2
  have inOthers := arePlain_iff.1 otherPlain.2
  simp only [written_map, List.cons_append, List.append_assoc, List.nil_append, List.cons.injEq,
    true_and] at same
  have entries : keys.zip values = otherKeys.zip others ∧ rest = beyond := by
    apply eq_of_rows (isMarked_cons rfl) (isMarked_cons rfl) (by decide) _ _ _ same
    · intro entry member other memberToo rest beyond marked otherMarked same
      rw [writtenEntry, writtenEntry, List.append_assoc, List.append_assoc] at same
      rcases eq_of_quoted same with ⟨sameKey, sameValue⟩
      simp only [List.cons_append, List.cons.injEq, true_and] at sameValue
      have inZip := (List.of_mem_zip member).2
      rcases reads entry.2 inZip other.2 rest beyond (inValues _ inZip)
        (inOthers _ (List.of_mem_zip memberToo).2) marked otherMarked sameValue with
        ⟨sameDatum, sameRest⟩
      exact ⟨Prod.ext sameKey sameDatum, sameRest⟩
    · exact fun entry _ => starts_writtenEntry entry
    · exact fun entry _ => starts_writtenEntry entry
  have sameKeys := congrArg (List.map Prod.fst) entries.1
  have sameValues := congrArg (List.map Prod.snd) entries.1
  rw [List.map_fst_zip (by rw [plain.1]), List.map_fst_zip (by rw [otherPlain.1])] at sameKeys
  rw [List.map_snd_zip (by rw [plain.1]), List.map_snd_zip (by rw [otherPlain.1])] at sameValues
  exact ⟨by rw [sameKeys, sameValues], entries.2⟩

end

mutual

theorem eq_of_written (apart : Float.AreToldApart floats) :
    ∀ left : Datum, left.IsReadOff floats
  | .text value => by
      intro right rest beyond plain otherPlain marked otherMarked same
      cases (Opens.text value).opens_of_written apart plain otherPlain marked otherMarked same
      rw [written, written] at same
      rcases eq_of_quoted same with ⟨rfl, sameRest⟩
      exact ⟨rfl, sameRest⟩
  | .list items => by
      intro right rest beyond plain otherPlain marked otherMarked same
      cases (Opens.list items).opens_of_written apart plain otherPlain marked otherMarked same
      rcases eq_of_lists (eq_of_mem_written apart items) plain otherPlain same with ⟨rfl, sameRest⟩
      exact ⟨rfl, sameRest⟩
  | .map keys values => by
      intro right rest beyond plain otherPlain marked otherMarked same
      cases (Opens.map keys values).opens_of_written apart plain otherPlain marked otherMarked same
      exact eq_of_maps (eq_of_mem_written apart values) plain otherPlain same
  | .integer value => fun _ _ _ => (IsWord.integer value).eq_of_written apart
  | .float value => fun _ _ _ => (IsWord.float value).eq_of_written apart
  | .boolean value => fun _ _ _ => (IsWord.boolean value).eq_of_written apart
  | .null => fun _ _ _ => IsWord.null.eq_of_written apart
  | .object .. | .unresolved => fun _ _ _ plain => plain.elim

theorem eq_of_mem_written (apart : Float.AreToldApart floats) :
    ∀ data : List Datum, ∀ left ∈ data, left.IsReadOff floats
  | datum :: rest, left, member => by
      rcases List.mem_cons.1 member with same | later
      · rw [same]
        exact eq_of_written apart datum
      · exact eq_of_mem_written apart rest left later

end

end Datum

end MacroSandbox
