import MacroSandbox.Loop.Program
import MacroSandbox.Proofs.ConstantTexts
import MacroSandbox.Proofs.OperatorTexts

/-! The texts of the expressions of loop programs, from which the expressions can be read off.

What stands in front of the first mark of an expression, and this mark, tell its kind. Only a number
starts with a sign, and no name is a keyword, so an operation on two operands is told from one on a
single operand by the start of its first operand. -/

namespace MacroSandbox

open Text

/-! ## Names -/

def keywords : List (List Char) :=
  ["not", "builtin", "call", "write_memory", "dim", "mid", "if", "elif", "else", "for", "each", "loop",
    "break", "return"].map String.toList

/-- A name that is told from constants and from the keywords of programs. -/
structure IsCodeName (name : String) : Prop where
  unmarked : IsUnmarked name.toList
  starts : ∃ first ∈ name.toList.head?, ¬ IsNumberStart first
  noKeyword : name.toList ∉ keywords
  noConstant : name.toList ∉ Datum.constantWords

def head (text : List Char) : List Char × Option Char :=
  (text.takeWhile (!isMark ·), (text.dropWhile (!isMark ·)).head?)

theorem head_append {word rest : List Char} (unmarked : IsUnmarked word) (marked : IsMarked rest) :
    head (word ++ rest) = (word, rest.head?) := by
  have passes : ∀ character ∈ word, (!isMark character) = true := fun character member => by
    rw [unmarked character member]
    rfl
  have stops : rest.takeWhile (!isMark ·) = [] ∧ rest.dropWhile (!isMark ·) = rest := by
    cases rest with
    | nil => exact ⟨rfl, rfl⟩
    | cons character rest =>
        have isMark := marked character rfl
        simp [isMark]
  rw [head, List.takeWhile_append_of_pos passes, List.dropWhile_append_of_pos passes, stops.1, stops.2,
    List.append_nil]

theorem head_of_isMark {mark : Char} (marks : isMark mark = true) (rest : List Char) :
    head (mark :: rest) = ([], some mark) :=
  @head_append [] (mark :: rest) (fun _ => nofun) (isMarked_cons marks rest)

namespace IsCodeName

variable {name : String} {rest : List Char}

theorem ne_nil (plain : IsCodeName name) : name.toList ≠ [] := by
  rcases plain.starts with ⟨first, starts, _⟩
  intro empty
  rw [empty] at starts
  cases starts

theorem head_append (plain : IsCodeName name) (marked : IsMarked rest) :
    head (name.toList ++ rest) = (name.toList, rest.head?) :=
  MacroSandbox.head_append plain.unmarked marked

theorem not_isWord (plain : IsCodeName name) {datum : Datum} (isWord : datum.IsWord name.toList) :
    False := by
  rcases isWord.starts with listed | ⟨first, later, starts, isStart⟩
  · exact plain.noConstant listed
  · rcases plain.starts with ⟨other, isFirst, noStart⟩
    rw [starts] at isFirst
    cases isFirst
    exact noStart isStart

end IsCodeName

namespace Datum.IsWord

variable {datum : Datum} {word : List Char}

theorem not_mem_keywords (isWord : datum.IsWord word) : word ∉ keywords := by
  rcases isWord.starts with listed | ⟨first, later, rfl, isStart⟩
  · exact (by decide : ∀ word ∈ constantWords, word ∉ keywords) word listed
  · exact fun listed => not_isNumberStart (by decide) listed rfl isStart

theorem of_minus (isWord : datum.IsWord ('-' :: word)) :
    word = ['i', 'n', 'f'] ∨ ∃ digit ∈ word.head?, digit.isDigit = true := by
  have ofDigits (number : Int) (same : (toString number).toList = '-' :: word) :
      ∃ digit ∈ word.head?, digit.isDigit = true := by
    have areDigits : ∀ character ∈ Nat.toDigits 10 number.natAbs, character.isDigit = true := by
      intro character member
      rcases Numeral.exists_of_mem_toDigits (by decide) member with ⟨value, small, rfl⟩
      exact (by decide : ∀ value < 10, (Nat.digitChar value).isDigit = true) value small
    by_cases negative : number < 0
    · rw [Int.toString_eq_of_neg negative, String.toList_ofList, List.cons.injEq] at same
      rw [← same.2]
      rcases List.exists_cons_of_ne_nil Nat.toDigits_ne_nil with ⟨digit, later, digits⟩
      rw [digits] at areDigits ⊢
      exact ⟨digit, rfl, areDigits digit List.mem_cons_self⟩
    · rw [Int.toString_eq_of_nonneg (Int.not_lt.1 negative), String.toList_ofList] at same
      rw [same] at areDigits
      cases areDigits '-' List.mem_cons_self
  generalize isText : '-' :: word = text at isWord
  cases isWord with
  | integer value => exact .inr (ofDigits value.toInt isText.symm)
  | float value =>
      have isFraction := Binary64.isFraction_marked (Binary64.ofFloat value)
      generalize markedOf : (markedFloatText value).toList = text at isText
      have isFraction : IsFraction text := markedOf ▸ isFraction
      rw [← isText] at isFraction
      generalize signed : '-' :: word = text at isFraction
      cases isFraction with
      | special listed =>
          simp only [List.mem_cons, List.not_mem_nil, or_false] at listed
          rcases listed with rfl | rfl | rfl
          · cases signed
          · cases signed
          · exact .inl (List.cons.inj signed).2
      | number isSign isDigit =>
          rcases isSign with rfl | rfl
          · rw [List.nil_append, List.cons.injEq] at signed
            rw [← signed.1] at isDigit
            cases isDigit
          · rw [(List.cons.inj signed).2]
            exact .inr ⟨_, rfl, isDigit⟩
  | boolean value => cases value <;> cases isText
  | null => cases isText

end Datum.IsWord

/-! ## Expressions -/

def closers : List Char :=
  [' ', '\n', ')', ']', ',', ';', ':']

def isCloser (character : Char) : Bool :=
  closers.contains character

def IsBehind (rest : List Char) : Prop :=
  ∀ character ∈ rest.head?, isCloser character = true

theorem isBehind_cons {character : Char} (closes : isCloser character = true) (rest : List Char) :
    IsBehind (character :: rest) := by
  rintro other ⟨⟩
  exact closes

theorem IsBehind.isMarked {rest : List Char} (behind : IsBehind rest) : IsMarked rest := by
  have areMarks : closers.all isMark = true := by decide
  exact fun character starts =>
    List.all_eq_true.1 areMarks character (List.contains_iff_mem.1 (behind character starts))

/-- A constant that is written without a look at any heap. -/
def Value.IsLegible (floats : Float → Prop) : Value → Prop
  | .float value => floats value
  | .integer _ | .text _ | .boolean _ | .null => True
  | _ => False

namespace LoopExpr

def text (heap : Heap) (expression : LoopExpr) : List Char :=
  (expression.render heap).toList

theorem renderList_eq_map (heap : Heap) (expressions : List LoopExpr) :
    renderList heap expressions = expressions.map (render heap) := by
  induction expressions with
  | nil => rfl
  | cons expression rest induction => rw [renderList, induction, List.map_cons]

section

variable (heap : Heap)

theorem intercalate_renderList (expressions : List LoopExpr) :
    [',', ' '].intercalate ((renderList heap expressions).map String.toList) =
      row (expressions.map (text heap)) := by
  have same := toList_intercalate (renderList heap expressions)
  rw [String.toList_intercalate, renderList_eq_map, List.map_map] at same
  rw [renderList_eq_map, List.map_map]
  exact same

theorem text_constant (value : Value) : text heap (.constant value) = (heap.contents value).written :=
  heap.toList_constant value

attribute [local simp] text render intercalate_renderList

theorem text_var (name : String) : text heap (.var name) = name.toList := by
  simp

theorem text_negate (operand : LoopExpr) :
    text heap (.unary .negate operand) = '(' :: '-' :: (text heap operand ++ [')']) := by
  simp

theorem text_complement (operand : LoopExpr) :
    text heap (.unary .complement operand) =
      '(' :: ("not".toList ++ ' ' :: (text heap operand ++ [')'])) := by
  simp

theorem text_binary (operator : BinaryOperator) (left right : LoopExpr) :
    text heap (.binary operator left right) =
      '(' :: (text heap left ++ ' ' :: (operator.symbol.toList ++
        ' ' :: (text heap right ++ [')']))) := by
  simp

theorem text_index (name : String) (indices : List LoopExpr) :
    text heap (.index name indices) =
      name.toList ++ '[' :: (row (indices.map (text heap)) ++ [']']) := by
  simp

theorem text_builtin (name : String) (routine : PureRoutine) (arguments : List LoopExpr) :
    text heap (.builtin name routine arguments) =
      "builtin".toList ++ ' ' :: (name.toList ++ '(' :: (row (arguments.map (text heap)) ++ [')'])) := by
  simp

theorem text_call (name : String) (arguments : List LoopExpr) :
    text heap (.call name arguments) =
      "call".toList ++ ' ' :: (name.toList ++ '(' :: (row (arguments.map (text heap)) ++ [')'])) := by
  simp

theorem text_writeMemory (arguments : List LoopExpr) :
    text heap (.writeMemory arguments) =
      "write_memory".toList ++ '(' :: (row (arguments.map (text heap)) ++ [')']) := by
  simp

end

mutual

/-- An expression that can be read off its text: its names are told from other words, its constants are
written apart, and its functions of the library go by their names. -/
def IsLegible (library : Library) (floats : Float → Prop) : LoopExpr → Prop
  | .constant value => value.IsLegible floats
  | .var name => IsCodeName name
  | .unary _ operand => operand.IsLegible library floats
  | .binary _ left right => left.IsLegible library floats ∧ right.IsLegible library floats
  | .index name indices => IsCodeName name ∧ AreLegible library floats indices
  | .builtin name routine arguments =>
      IsUnmarked name.toList ∧
        (library.functions.get? name).map LibraryFunction.routine = some (.pure routine) ∧
        AreLegible library floats arguments
  | .call name arguments => IsUnmarked name.toList ∧ AreLegible library floats arguments
  | .writeMemory arguments => AreLegible library floats arguments

def AreLegible (library : Library) (floats : Float → Prop) : List LoopExpr → Prop
  | [] => True
  | expression :: rest => expression.IsLegible library floats ∧ AreLegible library floats rest

end

variable {library : Library} {floats : Float → Prop} {heap other : Heap}

theorem areLegible_iff {expressions : List LoopExpr} :
    AreLegible library floats expressions ↔
      ∀ expression ∈ expressions, expression.IsLegible library floats := by
  induction expressions with
  | nil => simp [AreLegible]
  | cons expression rest induction => simp [AreLegible, induction]

/-! ### What an expression starts with -/

/-- What the start of an expression tells of it. -/
inductive Kind
  | quoted
  | word
  | group
  | element
  | builtin
  | call
  | writeMemory
  deriving DecidableEq

def kind : LoopExpr → Kind
  | .constant (.text _) => .quoted
  | .constant _ | .var _ => .word
  | .unary .. | .binary .. => .group
  | .index .. => .element
  | .builtin .. => .builtin
  | .call .. => .call
  | .writeMemory _ => .writeMemory

def kindOf (word : List Char) (next : Option Char) : Kind :=
  if word = [] then if next = some '"' then .quoted else .group
  else if next = some '[' then .element
  else if next = some '(' then .writeMemory
  else if word = "builtin".toList then .builtin
  else if word = "call".toList then .call
  else .word

theorem isWord_of_isLegible {value : Value} (legible : value.IsLegible floats) (heap : Heap) :
    (∃ content, value = .text content) ∨
      (heap.contents value).IsWord (text heap (.constant value)) ∧ kind (.constant value) = .word := by
  rw [text_constant]
  cases value with
  | text content => exact .inl ⟨content, rfl⟩
  | integer value => exact .inr ⟨.integer value, rfl⟩
  | float value => exact .inr ⟨.float value, rfl⟩
  | boolean value => exact .inr ⟨.boolean value, rfl⟩
  | null => exact .inr ⟨.null, rfl⟩
  | list | map | object | unresolved => cases legible

theorem isPlain_contents {value : Value} (legible : value.IsLegible floats) (heap : Heap) :
    (heap.contents value).IsPlain floats := by
  cases value with
  | float value => exact legible
  | integer | text | boolean | null => trivial
  | list | map | object | unresolved => cases legible

theorem eq_of_contents {left right : Value} (legible : left.IsLegible floats)
    (legibleToo : right.IsLegible floats) (same : heap.contents left = other.contents right) :
    left = right := by
  cases left <;> cases right <;>
    first | (cases legible; done) | (cases legibleToo; done) | (cases same <;> rfl)

/-- What stands in front of the first mark of an expression, and the mark. -/
inductive Starts (rest : List Char) : LoopExpr → List Char → Option Char → Prop
  | quoted (content : String) : Starts rest (.constant (.text content)) [] (some '"')
  | constant {value : Value} {datum : Datum} {word : List Char} (isWord : datum.IsWord word)
      (isKind : kind (.constant value) = .word) : Starts rest (.constant value) word rest.head?
  | var {name : String} (plain : IsCodeName name) :
      Starts rest (.var name) name.toList rest.head?
  | group {expression : LoopExpr} (isGroup : expression.kind = .group) :
      Starts rest expression [] (some '(')
  | index {name : String} (plain : IsCodeName name) (indices : List LoopExpr) :
      Starts rest (.index name indices) name.toList (some '[')
  | builtin (name : String) (routine : PureRoutine) (arguments : List LoopExpr) :
      Starts rest (.builtin name routine arguments) "builtin".toList (some ' ')
  | call (name : String) (arguments : List LoopExpr) :
      Starts rest (.call name arguments) "call".toList (some ' ')
  | writeMemory (arguments : List LoopExpr) :
      Starts rest (.writeMemory arguments) "write_memory".toList (some '(')

theorem starts {expression : LoopExpr} (legible : expression.IsLegible library floats)
    {rest : List Char} (behind : IsBehind rest) :
    Starts rest expression (head (expression.text heap ++ rest)).1
      (head (expression.text heap ++ rest)).2 := by
  have ofWord {word beyond : List Char} {mark : Char} (unmarked : IsUnmarked word)
      (marks : isMark mark = true) : head (word ++ mark :: beyond) = (word, some mark) :=
    head_append unmarked (isMarked_cons marks beyond)
  cases expression with
  | constant value =>
      rw [IsLegible] at legible
      rcases isWord_of_isLegible legible heap with ⟨content, rfl⟩ | ⟨isWord, isKind⟩
      · have quotes : ∃ later, text heap (.constant (.text content)) = '"' :: later := by
          rw [text_constant]
          exact (Datum.Opens.text content).exists_cons
        rcases quotes with ⟨later, quotes⟩
        rw [quotes, List.cons_append, head_of_isMark rfl]
        exact .quoted content
      · rw [head_append isWord.isUnmarked behind.isMarked]
        exact .constant isWord isKind
  | var name =>
      rw [IsLegible] at legible
      rw [text_var, legible.head_append behind.isMarked]
      exact .var legible
  | unary operator operand =>
      cases operator with
      | negate =>
          rw [text_negate, List.cons_append, head_of_isMark rfl]
          exact .group rfl
      | complement =>
          rw [text_complement, List.cons_append, head_of_isMark rfl]
          exact .group rfl
  | binary operator left right =>
      rw [text_binary, List.cons_append, head_of_isMark rfl]
      exact .group rfl
  | index name indices =>
      rw [IsLegible] at legible
      rw [text_index, List.append_assoc, List.cons_append, ofWord legible.1.unmarked rfl]
      exact .index legible.1 indices
  | builtin name routine arguments =>
      rw [text_builtin, List.append_assoc, List.cons_append, ofWord (by decide) rfl]
      exact .builtin name routine arguments
  | call name arguments =>
      rw [text_call, List.append_assoc, List.cons_append, ofWord (by decide) rfl]
      exact .call name arguments
  | writeMemory arguments =>
      rw [text_writeMemory, List.append_assoc, List.cons_append, ofWord (by decide) rfl]
      exact .writeMemory arguments

namespace Starts

variable {expression : LoopExpr} {rest word : List Char} {next : Option Char}

theorem kindOf_eq (starts : Starts rest expression word next) (behind : IsBehind rest) :
    kindOf word next = expression.kind := by
  have ofFree {word : List Char} (nonempty : word ≠ []) (free : word ∉ keywords) :
      kindOf word rest.head? = .word := by
    have noOpening (mark : Char) (opens : isCloser mark = false) : rest.head? ≠ some mark := by
      intro isMark
      have closes := behind mark isMark
      rw [opens] at closes
      cases closes
    have noKeyword (keyword : List Char) (listed : keyword ∈ keywords) : word ≠ keyword := by
      rintro rfl
      exact free listed
    rw [kindOf, if_neg nonempty, if_neg (noOpening '[' rfl), if_neg (noOpening '(' rfl),
      if_neg (noKeyword _ (by decide)), if_neg (noKeyword _ (by decide))]
  cases starts with
  | quoted => rfl
  | group isGroup => exact isGroup.symm
  | constant isWord isKind =>
      rcases isWord.exists_cons with ⟨first, later, rfl⟩
      rw [ofFree (List.cons_ne_nil _ _) isWord.not_mem_keywords, isKind]
  | var plain => exact ofFree plain.ne_nil plain.noKeyword
  | index plain indices => exact (if_neg plain.ne_nil).trans (if_pos rfl)
  | builtin | call | writeMemory => rfl

theorem of_nil (starts : Starts rest expression [] next) : next = some '"' ∨ next = some '(' := by
  generalize isEmpty : [] = word at starts
  cases starts with
  | quoted => exact .inl rfl
  | group => exact .inr rfl
  | constant isWord =>
      rcases isWord.exists_cons with ⟨first, later, rfl⟩
      cases isEmpty
  | var plain | index plain => exact absurd isEmpty.symm plain.ne_nil
  | builtin | call | writeMemory => cases isEmpty

theorem ne_not (starts : Starts rest expression word next) : word ≠ "not".toList := by
  cases starts with
  | quoted | group | builtin | call | writeMemory => decide
  | constant isWord =>
      rintro rfl
      exact isWord.not_mem_keywords (by decide)
  | var plain | index plain =>
      intro isNot
      exact plain.noKeyword (isNot ▸ by decide)

/-- Where a blank stands behind the first word of an expression, the word is all of the expression, or a
keyword. -/
theorem of_blank (starts : Starts rest expression word next) (blank : next = some ' ') :
    rest.head? = some ' ' ∨ word ∈ keywords := by
  cases starts with
  | quoted | group | index | writeMemory => cases blank
  | constant | var => exact .inl blank
  | builtin | call => exact .inr (by decide)

theorem of_minus (starts : Starts rest expression ('-' :: word) next) :
    ∃ datum : Datum, datum.IsWord ('-' :: word) ∧ next = rest.head? := by
  generalize isText : '-' :: word = text at starts
  have excluded {name : String} (plain : IsCodeName name) (isName : '-' :: word = name.toList) :
      False := by
    rcases plain.starts with ⟨first, starts, noStart⟩
    rw [← isName] at starts
    cases starts
    exact noStart (.inr rfl)
  cases starts with
  | quoted | group | builtin | call | writeMemory => cases isText
  | constant isWord => exact ⟨_, isWord, rfl⟩
  | var plain | index plain => exact (excluded plain isText).elim

end Starts

/-! ### Reading expressions off -/

/-- An operation on two operands is not taken for the negation of one. -/
theorem ne_negate_of_binary {left operand : LoopExpr} (legible : left.IsLegible library floats)
    (legibleToo : operand.IsLegible library floats) {rest beyond : List Char} :
    left.text heap ++ ' ' :: rest ≠ '-' :: (operand.text other ++ ')' :: beyond) := by
  intro same
  have starts := @starts library floats heap left legible (' ' :: rest) (isBehind_cons rfl _)
  have startsToo := @LoopExpr.starts library floats other operand legibleToo (')' :: beyond)
    (isBehind_cons rfl _)
  rw [same] at starts
  generalize operand.text other ++ ')' :: beyond = inner at starts startsToo
  have isHead : head ('-' :: inner) = ('-' :: (head inner).1, (head inner).2) := rfl
  rw [isHead] at starts
  rcases starts.of_minus with ⟨datum, isWord, isNext⟩
  -- The number in front of a blank would be the operand in front of a parenthesis.
  rcases startsToo.of_blank isNext with isBlank | isKeyword
  · cases isBlank
  · rcases isWord.of_minus with isInf | ⟨digit, isFirst, isDigit⟩
    · rw [isInf] at isKeyword
      revert isKeyword
      decide
    · exact not_isNumberStart (by decide) isKeyword isFirst (.inl isDigit)

theorem ne_complement_of_binary {left : LoopExpr} (legible : left.IsLegible library floats)
    {rest beyond : List Char} :
    left.text heap ++ ' ' :: rest ≠ "not".toList ++ ' ' :: beyond := by
  intro same
  have starts := @starts library floats heap left legible (' ' :: rest) (isBehind_cons rfl _)
  rw [same, head_append (by decide) (isMarked_cons rfl _)] at starts
  exact starts.ne_not rfl

theorem eq_of_constants (apart : Float.AreToldApart floats) {left right : Value}
    (legible : left.IsLegible floats) (legibleToo : right.IsLegible floats) {rest beyond : List Char}
    (behind : IsBehind rest) (behindToo : IsBehind beyond)
    (same : text heap (.constant left) ++ rest = text other (.constant right) ++ beyond) :
    left = right ∧ rest = beyond := by
  rw [text_constant, text_constant] at same
  rcases Datum.eq_of_written apart _ _ _ _ (isPlain_contents legible heap)
    (isPlain_contents legibleToo other) behind.isMarked behindToo.isMarked same with
    ⟨sameContents, sameRest⟩
  exact ⟨eq_of_contents legible legibleToo sameContents, sameRest⟩

theorem not_constant_of_var {value : Value} (legible : value.IsLegible floats) {name : String}
    (plain : IsCodeName name) {rest beyond : List Char} (behind : IsBehind rest)
    (behindToo : IsBehind beyond) :
    text heap (.constant value) ++ rest ≠ name.toList ++ beyond := by
  intro same
  rcases isWord_of_isLegible legible heap with ⟨content, rfl⟩ | ⟨isWord, _⟩
  · rcases (Datum.Opens.text content).exists_cons with ⟨later, opens⟩
    have sameHead := congrArg head same
    rw [text_constant, show heap.contents (.text content) = .text content from rfl, opens,
      List.cons_append, head_of_isMark rfl, plain.head_append behindToo.isMarked] at sameHead
    exact plain.ne_nil (Prod.mk.inj sameHead).1.symm
  · rcases eq_of_words isWord.isUnmarked plain.unmarked behind.isMarked behindToo.isMarked same with
      ⟨sameWord, _⟩
    rw [sameWord] at isWord
    exact plain.not_isWord isWord

theorem isUnmarked_symbol (operator : BinaryOperator) : IsUnmarked operator.symbol.toList := by
  cases operator <;> decide

theorem kind_eq_of_texts {left right : LoopExpr} (legible : left.IsLegible library floats)
    (legibleToo : right.IsLegible library floats) {rest beyond : List Char} (behind : IsBehind rest)
    (behindToo : IsBehind beyond)
    (same : left.text heap ++ rest = right.text other ++ beyond) : left.kind = right.kind := by
  rw [← (starts legible behind).kindOf_eq behind, same]
  exact (starts legibleToo behindToo).kindOf_eq behindToo

theorem exists_cons {expression : LoopExpr} (legible : expression.IsLegible library floats)
    (heap : Heap) {close : Char} (closes : close = ')' ∨ close = ']') :
    ∃ first later, expression.text heap = first :: later ∧ first ≠ close := by
  have starts := @starts library floats heap expression legible [] nofun
  rw [List.append_nil] at starts
  cases isText : expression.text heap with
  | nil =>
      rw [isText] at starts
      rcases starts.of_nil with impossible | impossible <;> cases impossible
  | cons first later =>
      refine ⟨first, later, rfl, ?_⟩
      rintro rfl
      rw [isText, head_of_isMark (by rcases closes with rfl | rfl <;> rfl)] at starts
      rcases starts.of_nil with isQuote | isGroup
      · cases isQuote
        rcases closes with impossible | impossible <;> cases impossible
      · cases isGroup
        rcases closes with impossible | impossible <;> cases impossible

/-- An expression is told from all others by its text, in front of anything that can stand behind it. -/
def IsReadOff (library : Library) (floats : Float → Prop) (heap other : Heap) (left : LoopExpr) :
    Prop :=
  ∀ (right : LoopExpr) (rest beyond : List Char), left.IsLegible library floats →
    right.IsLegible library floats → IsBehind rest → IsBehind beyond →
    left.text heap ++ rest = right.text other ++ beyond → left = right ∧ rest = beyond

theorem eq_of_rows {items others : List LoopExpr} (legible : AreLegible library floats items)
    (legibleToo : AreLegible library floats others) {close : Char} (closes : close = ')' ∨ close = ']')
    (reads : ∀ item ∈ items, item.IsReadOff library floats heap other) {rest beyond : List Char}
    (same : row (items.map (text heap)) ++ close :: rest =
      row (others.map (text other)) ++ close :: beyond) : items = others ∧ rest = beyond := by
  have inItems := areLegible_iff.1 legible
  have inOthers := areLegible_iff.1 legibleToo
  have closing (rest : List Char) : IsBehind (close :: rest) := by
    rcases closes with rfl | rfl <;> exact isBehind_cons rfl rest
  have noComma : close ≠ ',' := by
    rcases closes with rfl | rfl <;> decide
  exact Text.eq_of_rows (isBehind_cons rfl) closing noComma
    (fun item member found memberToo _ _ => reads item member found _ _ (inItems item member)
      (inOthers found memberToo))
    (fun item member => exists_cons (inItems item member) heap closes)
    (fun item member => exists_cons (inOthers item member) other closes) same

section

variable {rest beyond : List Char}

theorem eq_of_variables {name found : String} (plain : IsCodeName name) (plainToo : IsCodeName found)
    (behind : IsBehind rest) (behindToo : IsBehind beyond)
    (same : name.toList ++ rest = found.toList ++ beyond) : name = found ∧ rest = beyond := by
  rcases eq_of_words plain.unmarked plainToo.unmarked behind.isMarked behindToo.isMarked same with
    ⟨sameName, sameRest⟩
  exact ⟨String.toList_inj.1 sameName, sameRest⟩

theorem eq_of_unaries {operator operatorToo : UnaryOperator} {operand found : LoopExpr}
    (reads : operand.IsReadOff library floats heap other)
    (legible : operand.IsLegible library floats) (legibleToo : found.IsLegible library floats)
    (same : text heap (.unary operator operand) ++ rest =
      text other (.unary operatorToo found) ++ beyond) :
    LoopExpr.unary operator operand = .unary operatorToo found ∧ rest = beyond := by
  cases operator with
  | negate =>
      cases operatorToo with
      | negate =>
          simp only [text_negate, List.cons_append, List.append_assoc, List.cons.injEq, true_and,
            List.nil_append] at same
          rcases reads found _ _ legible legibleToo (isBehind_cons rfl _) (isBehind_cons rfl _) same
            with ⟨rfl, sameRest⟩
          exact ⟨rfl, (List.cons.inj sameRest).2⟩
      | complement =>
          rw [text_negate, text_complement] at same
          cases (List.cons.inj (List.cons.inj same).2).1
  | complement =>
      cases operatorToo with
      | negate =>
          rw [text_negate, text_complement] at same
          cases (List.cons.inj (List.cons.inj same).2).1
      | complement =>
          simp only [text_complement, List.cons_append, List.append_assoc, List.cons.injEq, true_and,
            List.append_cancel_left_eq, List.nil_append] at same
          rcases reads found _ _ legible legibleToo (isBehind_cons rfl _) (isBehind_cons rfl _) same
            with ⟨rfl, sameRest⟩
          exact ⟨rfl, (List.cons.inj sameRest).2⟩

theorem ne_unary_of_binary {operator : UnaryOperator} {operatorToo : BinaryOperator}
    {operand left right : LoopExpr} (legible : operand.IsLegible library floats)
    (legibleToo : left.IsLegible library floats) :
    text heap (.unary operator operand) ++ rest ≠
      text other (.binary operatorToo left right) ++ beyond := by
  intro same
  cases operator with
  | negate =>
      simp only [text_negate, text_binary, List.cons_append, List.append_assoc, List.cons.injEq,
        true_and, List.nil_append] at same
      exact ne_negate_of_binary legibleToo legible same.symm
  | complement =>
      simp only [text_complement, text_binary, List.cons_append, List.append_assoc, List.cons.injEq,
        true_and, List.nil_append] at same
      exact ne_complement_of_binary legibleToo same.symm

theorem eq_of_binaries {operator operatorToo : BinaryOperator} {left right first second : LoopExpr}
    (readsLeft : left.IsReadOff library floats heap other)
    (readsRight : right.IsReadOff library floats heap other)
    (legible : left.IsLegible library floats ∧ right.IsLegible library floats)
    (legibleToo : first.IsLegible library floats ∧ second.IsLegible library floats)
    (same : text heap (.binary operator left right) ++ rest =
      text other (.binary operatorToo first second) ++ beyond) :
    LoopExpr.binary operator left right = .binary operatorToo first second ∧ rest = beyond := by
  simp only [text_binary, List.cons_append, List.append_assoc, List.cons.injEq, true_and,
    List.nil_append] at same
  rcases readsLeft first _ _ legible.1 legibleToo.1 (isBehind_cons rfl _) (isBehind_cons rfl _) same
    with ⟨rfl, sameLater⟩
  rcases eq_of_words (isUnmarked_symbol _) (isUnmarked_symbol _) (isMarked_cons rfl _)
    (isMarked_cons rfl _) (List.cons.inj sameLater).2 with ⟨sameSymbol, sameSecond⟩
  rcases readsRight second _ _ legible.2 legibleToo.2 (isBehind_cons rfl _) (isBehind_cons rfl _)
    (List.cons.inj sameSecond).2 with ⟨rfl, sameRest⟩
  rw [OperatorTree.symbol_injective sameSymbol]
  exact ⟨rfl, (List.cons.inj sameRest).2⟩

variable {items others : List LoopExpr} {close : Char} (closes : close = ')' ∨ close = ']')
  (reads : ∀ item ∈ items, item.IsReadOff library floats heap other)
  (legible : AreLegible library floats items) (legibleToo : AreLegible library floats others)

include closes reads legible legibleToo

theorem eq_of_applications {name found : String} {bracket : Char} (isBracket : isMark bracket = true)
    (unmarked : IsUnmarked name.toList) (unmarkedToo : IsUnmarked found.toList)
    (same : name.toList ++ bracket :: (row (items.map (text heap)) ++ close :: rest) =
      found.toList ++ bracket :: (row (others.map (text other)) ++ close :: beyond)) :
    name = found ∧ items = others ∧ rest = beyond := by
  rcases eq_of_words unmarked unmarkedToo (isMarked_cons isBracket _) (isMarked_cons isBracket _) same
    with ⟨sameName, sameLater⟩
  rcases eq_of_rows legible legibleToo closes reads (List.cons.inj sameLater).2 with
    ⟨sameItems, sameRest⟩
  exact ⟨String.toList_inj.1 sameName, sameItems, sameRest⟩

end

mutual

theorem eq_of_texts (apart : Float.AreToldApart floats) :
    ∀ left : LoopExpr, left.IsReadOff library floats heap other
  | .constant value => by
      intro right rest beyond legible legibleToo behind behindToo same
      have sameKind := kind_eq_of_texts legible legibleToo behind behindToo same
      rw [IsLegible] at legible
      cases right with
      | constant found =>
          rw [IsLegible] at legibleToo
          rcases eq_of_constants apart legible legibleToo behind behindToo same with ⟨rfl, sameRest⟩
          exact ⟨rfl, sameRest⟩
      | var name =>
          rw [IsLegible] at legibleToo
          rw [text_var] at same
          exact absurd same (not_constant_of_var legible legibleToo behind behindToo)
      | _ => cases value <;> cases sameKind
  | .var name => by
      intro right rest beyond legible legibleToo behind behindToo same
      have sameKind := kind_eq_of_texts legible legibleToo behind behindToo same
      rw [IsLegible] at legible
      rw [text_var] at same
      cases right with
      | constant found =>
          rw [IsLegible] at legibleToo
          exact absurd same.symm (not_constant_of_var legibleToo legible behindToo behind)
      | var found =>
          rw [IsLegible] at legibleToo
          rw [text_var] at same
          rcases eq_of_variables legible legibleToo behind behindToo same with ⟨rfl, sameRest⟩
          exact ⟨rfl, sameRest⟩
      | _ => cases sameKind
  | .unary operator operand => by
      intro right rest beyond legible legibleToo behind behindToo same
      have sameKind := kind_eq_of_texts legible legibleToo behind behindToo same
      rw [IsLegible] at legible
      cases right with
      | unary operatorToo found =>
          rw [IsLegible] at legibleToo
          exact eq_of_unaries (eq_of_texts apart operand) legible legibleToo same
      | binary operatorToo first second =>
          rw [IsLegible] at legibleToo
          exact absurd same (ne_unary_of_binary legible legibleToo.1)
      | constant found => cases found <;> cases sameKind
      | _ => cases sameKind
  | .binary operator left right => by
      intro found rest beyond legible legibleToo behind behindToo same
      have sameKind := kind_eq_of_texts legible legibleToo behind behindToo same
      rw [IsLegible] at legible
      cases found with
      | unary operatorToo operand =>
          rw [IsLegible] at legibleToo
          exact absurd same.symm (ne_unary_of_binary legibleToo legible.1)
      | binary operatorToo first second =>
          rw [IsLegible] at legibleToo
          exact eq_of_binaries (eq_of_texts apart left) (eq_of_texts apart right) legible legibleToo
            same
      | constant found => cases found <;> cases sameKind
      | _ => cases sameKind
  | .index name indices => by
      intro right rest beyond legible legibleToo behind behindToo same
      have sameKind := kind_eq_of_texts legible legibleToo behind behindToo same
      rw [IsLegible] at legible
      cases right with
      | index found others =>
          rw [IsLegible] at legibleToo
          simp only [text_index, List.cons_append, List.append_assoc, List.nil_append] at same
          rcases eq_of_applications (.inr rfl) (eq_of_mem_texts apart indices) legible.2 legibleToo.2
            rfl legible.1.unmarked legibleToo.1.unmarked same with ⟨rfl, rfl, sameRest⟩
          exact ⟨rfl, sameRest⟩
      | constant found => cases found <;> cases sameKind
      | _ => cases sameKind
  | .builtin name routine arguments => by
      intro right rest beyond legible legibleToo behind behindToo same
      have sameKind := kind_eq_of_texts legible legibleToo behind behindToo same
      rw [IsLegible] at legible
      cases right with
      | builtin found routineToo others =>
          rw [IsLegible] at legibleToo
          simp only [text_builtin, List.cons_append, List.append_assoc, List.nil_append,
            List.append_cancel_left_eq, List.cons.injEq, true_and] at same
          rcases eq_of_applications (.inl rfl) (eq_of_mem_texts apart arguments) legible.2.2
            legibleToo.2.2 rfl legible.1 legibleToo.1 same with ⟨rfl, rfl, sameRest⟩
          cases legible.2.1.symm.trans legibleToo.2.1
          exact ⟨rfl, sameRest⟩
      | constant found => cases found <;> cases sameKind
      | _ => cases sameKind
  | .call name arguments => by
      intro right rest beyond legible legibleToo behind behindToo same
      have sameKind := kind_eq_of_texts legible legibleToo behind behindToo same
      rw [IsLegible] at legible
      cases right with
      | call found others =>
          rw [IsLegible] at legibleToo
          simp only [text_call, List.cons_append, List.append_assoc, List.nil_append,
            List.append_cancel_left_eq, List.cons.injEq, true_and] at same
          rcases eq_of_applications (.inl rfl) (eq_of_mem_texts apart arguments) legible.2
            legibleToo.2 rfl legible.1 legibleToo.1 same with ⟨rfl, rfl, sameRest⟩
          exact ⟨rfl, sameRest⟩
      | constant found => cases found <;> cases sameKind
      | _ => cases sameKind
  | .writeMemory arguments => by
      intro right rest beyond legible legibleToo behind behindToo same
      have sameKind := kind_eq_of_texts legible legibleToo behind behindToo same
      rw [IsLegible] at legible
      cases right with
      | writeMemory others =>
          rw [IsLegible] at legibleToo
          simp only [text_writeMemory, List.cons_append, List.append_assoc, List.nil_append,
            List.append_cancel_left_eq, List.cons.injEq, true_and] at same
          rcases eq_of_rows legible legibleToo (.inl rfl) (eq_of_mem_texts apart arguments) same with
            ⟨rfl, sameRest⟩
          exact ⟨rfl, sameRest⟩
      | constant found => cases found <;> cases sameKind
      | _ => cases sameKind

theorem eq_of_mem_texts (apart : Float.AreToldApart floats) :
    ∀ expressions : List LoopExpr, ∀ left ∈ expressions, left.IsReadOff library floats heap other
  | expression :: rest, left, member => by
      rcases List.mem_cons.1 member with same | later
      · rw [same]
        exact eq_of_texts apart expression
      · exact eq_of_mem_texts apart rest left later

end

end LoopExpr

end MacroSandbox
