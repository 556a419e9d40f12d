import MacroSandbox.Program.Render

/-! The text of an expression of numbers and operators shows how the expression is made, down to the
texts of its numbers. -/

namespace MacroSandbox

/-! ## Trees -/

/-- An expression of numbers and operators as its text shows it. A number with a minus sign in front
does not differ from the negation of a number. -/
inductive OperatorTree
  | atom (text : List Char)
  | negation (operand : OperatorTree)
  | operation (operator : BinaryOperator) (left right : OperatorTree)

namespace OperatorTree

def isOperation : OperatorTree → Bool
  | .operation .. => true
  | _ => false

def isWrapped (parent : BinaryOperator) (onRight : Bool) : OperatorTree → Bool
  | .operation operator .. =>
      operator.precedence < parent.precedence ||
        (onRight && operator.precedence == parent.precedence)
  | _ => false

def wrap (isWrapped : Bool) (text : List Char) : List Char :=
  if isWrapped then '(' :: (text ++ [')']) else text

def text : OperatorTree → List Char
  | .atom text => text
  | .negation operand => '-' :: wrap operand.isOperation operand.text
  | .operation operator left right =>
      wrap (left.isWrapped operator false) left.text ++
        ' ' :: (operator.symbol.toList ++
          ' ' :: wrap (right.isWrapped operator true) right.text)

/-- Whether a character is part of a number: it is no blank and no parenthesis. -/
def isAtomic (character : Char) : Bool :=
  character != ' ' && character != '(' && character != ')'

structure IsAtom (text : List Char) : Prop where
  notEmpty : text ≠ []
  unsigned : text.head? ≠ some '-'
  atomic : ∀ character ∈ text, isAtomic character = true

def IsWellFormed : OperatorTree → Prop
  | .atom text => IsAtom text
  | .negation operand => operand.IsWellFormed
  | .operation _ left right => left.IsWellFormed ∧ right.IsWellFormed

/-! ## Pieces

Blanks outside of parentheses cut a text into operands and operators. -/

def depthAfter (depth : Nat) (character : Char) : Nat :=
  if character == '(' then depth + 1 else if character == ')' then depth - 1 else depth

/-- The pieces of a text that goes on inside of `depth` parentheses after the start of a piece. -/
def pieces : (depth : Nat) → (start text : List Char) → List (List Char)
  | _, start, [] => [start]
  | depth, start, character :: rest =>
      if depth == 0 && character == ' ' then start :: pieces 0 [] rest
      else pieces (depthAfter depth character) (start ++ [character]) rest

/-- A text is not cut where at least so many parentheses are open. -/
def IsWhole (least : Nat) (text : List Char) : Prop :=
  ∀ depth ≥ least, ∀ start rest,
    pieces depth start (text ++ rest) = pieces depth (start ++ text) rest

namespace IsWhole

variable {least : Nat} {left right text : List Char}

theorem append (first : IsWhole least left) (second : IsWhole least right) :
    IsWhole least (left ++ right) := by
  intro depth deep start rest
  rw [List.append_assoc, first depth deep, second depth deep, List.append_assoc]

theorem weaken (isWhole : IsWhole 0 text) : IsWhole least text :=
  fun depth _ => isWhole depth (Nat.zero_le depth)

theorem blank : IsWhole 1 [' '] := by
  intro depth deep start rest
  have notZero : (depth == 0) = false := by simpa using Nat.ne_of_gt deep
  simp [pieces, notZero, depthAfter]

theorem of_atomic (atomic : ∀ character ∈ text, isAtomic character = true) : IsWhole 0 text := by
  induction text with
  | nil => simp [IsWhole]
  | cons character text induction =>
      intro depth deep start rest
      have plain := atomic character (by simp)
      simp only [isAtomic, Bool.and_eq_true, bne_iff_ne] at plain
      rw [List.cons_append, pieces]
      simp only [depthAfter, beq_eq_false_iff_ne.2 plain.1.1, beq_eq_false_iff_ne.2 plain.1.2,
        beq_eq_false_iff_ne.2 plain.2, Bool.and_false, Bool.false_eq_true, if_false]
      rw [induction (fun later member => atomic later (by simp [member])) depth deep]
      simp

theorem parenthesized (isWhole : IsWhole 1 text) : IsWhole 0 ('(' :: (text ++ [')'])) := by
  intro depth _ start rest
  have opened : pieces depth start ('(' :: (text ++ [')']) ++ rest) =
      pieces (depth + 1) (start ++ ['(']) (text ++ (')' :: rest)) := by
    simp [pieces, depthAfter]
  rw [opened, isWhole (depth + 1) (Nat.le_add_left 1 depth)]
  simp [pieces, depthAfter]

end IsWhole

theorem isAtomic_of_mem_symbol (operator : BinaryOperator) :
    ∀ character ∈ operator.symbol.toList, isAtomic character = true := by
  have all : operator.symbol.toList.all isAtomic = true := by cases operator <;> decide
  exact List.all_eq_true.1 all

theorem isWhole_text {tree : OperatorTree} (wellFormed : tree.IsWellFormed) :
    IsWhole 1 tree.text := by
  have wrapped {text : List Char} (isWhole : IsWhole 1 text) (needed : Bool) :
      IsWhole 1 (wrap needed text) := by
    cases needed with
    | false => exact isWhole
    | true => exact isWhole.parenthesized.weaken
  induction tree with
  | atom text => exact (IsWhole.of_atomic wellFormed.atomic).weaken
  | negation operand induction =>
      have sign : IsWhole 1 ['-'] := (IsWhole.of_atomic (List.all_eq_true.1 (by decide))).weaken
      exact sign.append (wrapped (induction wellFormed) _)
  | operation operator left right inLeft inRight =>
      have symbol : IsWhole 1 operator.symbol.toList :=
        (IsWhole.of_atomic (isAtomic_of_mem_symbol operator)).weaken
      exact (wrapped (inLeft wellFormed.1) _).append
        (IsWhole.blank.append (symbol.append (IsWhole.blank.append (wrapped (inRight wellFormed.2) _))))

/-! ## Spines

The operators that are not in parentheses, with the operands between them. -/

/-- The first operand, and the operators with the operands that follow them. -/
abbrev Spine := List Char × List (BinaryOperator × List Char)

def Spine.text (spine : Spine) : List Char :=
  spine.1 ++ spine.2.flatMap fun entry => ' ' :: (entry.1.symbol.toList ++ ' ' :: entry.2)

def Spine.pieces (spine : Spine) : List (List Char) :=
  spine.1 :: spine.2.flatMap fun entry => [entry.1.symbol.toList, entry.2]

def spineOf (isWrapped : Bool) (text : List Char) (spine : Spine) : Spine :=
  if isWrapped then (wrap true text, []) else spine

def spine : OperatorTree → Spine
  | .operation operator left right =>
      let first := spineOf (left.isWrapped operator false) left.text left.spine
      let second := spineOf (right.isWrapped operator true) right.text right.spine
      (first.1, first.2 ++ (operator, second.1) :: second.2)
  | tree => (tree.text, [])

theorem text_spineOf {text : List Char} {spine : Spine} (same : spine.text = text)
    (isWrapped : Bool) : (spineOf isWrapped text spine).text = wrap isWrapped text := by
  cases isWrapped with
  | false => exact same
  | true => simp [spineOf, Spine.text]

theorem text_spine (tree : OperatorTree) : tree.spine.text = tree.text := by
  induction tree with
  | atom text => simp [spine, Spine.text]
  | negation operand => simp [spine, Spine.text]
  | operation operator left right inLeft inRight =>
      rw [text, ← text_spineOf inLeft, ← text_spineOf inRight]
      simp [spine, Spine.text]

def Spine.IsWhole (spine : Spine) : Prop :=
  OperatorTree.IsWhole 0 spine.1 ∧ ∀ entry ∈ spine.2, OperatorTree.IsWhole 0 entry.2

theorem isWhole_spineOf {tree : OperatorTree} (wellFormed : tree.IsWellFormed)
    (isWhole : tree.spine.IsWhole) (isWrapped : Bool) :
    (spineOf isWrapped tree.text tree.spine).IsWhole := by
  cases isWrapped with
  | false => exact isWhole
  | true => exact ⟨(isWhole_text wellFormed).parenthesized, by simp [spineOf]⟩

theorem isWhole_spine {tree : OperatorTree} (wellFormed : tree.IsWellFormed) :
    tree.spine.IsWhole := by
  induction tree with
  | atom text => exact ⟨.of_atomic wellFormed.atomic, by simp [spine]⟩
  | negation operand induction =>
      have sign : IsWhole 0 ['-'] := .of_atomic (List.all_eq_true.1 (by decide))
      refine ⟨sign.append ?_, by simp [spine]⟩
      cases operand with
      | atom text => exact .of_atomic wellFormed.atomic
      | negation inner => exact (induction wellFormed).1
      | operation operator left right =>
          exact (@isWhole_text (.operation operator left right) wellFormed).parenthesized
  | operation operator left right inLeft inRight =>
      have first := isWhole_spineOf wellFormed.1 (inLeft wellFormed.1)
        (left.isWrapped operator false)
      have second := isWhole_spineOf wellFormed.2 (inRight wellFormed.2)
        (right.isWrapped operator true)
      refine ⟨first.1, fun entry member => ?_⟩
      rcases List.mem_append.1 member with inFirst | later
      · exact first.2 entry inFirst
      · rcases List.mem_cons.1 later with rfl | inSecond
        · exact second.1
        · exact second.2 entry inSecond

theorem pieces_text {spine : Spine} (isWhole : spine.IsWhole) :
    pieces 0 [] spine.text = spine.pieces := by
  obtain ⟨first, rest⟩ := spine
  have entries : ∀ (rest : List (BinaryOperator × List Char)) (start : List Char),
      (∀ entry ∈ rest, OperatorTree.IsWhole 0 entry.2) →
      pieces 0 start (rest.flatMap fun entry => ' ' :: (entry.1.symbol.toList ++ ' ' :: entry.2)) =
        start :: rest.flatMap fun entry => [entry.1.symbol.toList, entry.2] := by
    intro rest
    induction rest with
    | nil => simp [pieces]
    | cons entry rest induction =>
        intro start whole
        have symbol := IsWhole.of_atomic (isAtomic_of_mem_symbol entry.1)
        have operand := whole entry (by simp)
        have later := induction entry.2 fun other member => whole other (by simp [member])
        simp only [List.flatMap_cons, List.cons_append, List.append_assoc, pieces,
          beq_self_eq_true, Bool.and_self, if_true, List.nil_append]
        rw [symbol 0 (Nat.le_refl 0), pieces]
        simp only [beq_self_eq_true, Bool.and_self, if_true, List.nil_append]
        rw [operand 0 (Nat.le_refl 0), List.nil_append, later]
  rw [Spine.text, isWhole.1 0 (Nat.le_refl 0)]
  exact entries rest first isWhole.2

theorem symbol_injective {left right : BinaryOperator}
    (same : left.symbol.toList = right.symbol.toList) : left = right := by
  revert same
  cases left <;> cases right <;> decide

theorem Spine.eq_of_pieces_eq {left right : Spine} (same : left.pieces = right.pieces) :
    left = right := by
  obtain ⟨first, rest⟩ := left
  obtain ⟨otherFirst, otherRest⟩ := right
  simp only [pieces, List.cons.injEq] at same
  rw [same.1]
  congr 1
  have entries := same.2
  clear same
  induction rest generalizing otherRest with
  | nil =>
      cases otherRest with
      | nil => rfl
      | cons entry => cases entries
  | cons entry rest induction =>
      cases otherRest with
      | nil => cases entries
      | cons otherEntry otherRest =>
          simp only [List.flatMap_cons, List.cons_append, List.nil_append, List.cons.injEq]
            at entries
          obtain ⟨symbol, operand, later⟩ := entries
          rw [induction otherRest later, Prod.ext (symbol_injective symbol) operand]

theorem spine_eq_of_text_eq {left right : OperatorTree} (wellFormed : left.IsWellFormed)
    (otherWellFormed : right.IsWellFormed) (same : left.text = right.text) :
    left.spine = right.spine := by
  apply Spine.eq_of_pieces_eq
  rw [← pieces_text (isWhole_spine wellFormed), ← pieces_text (isWhole_spine otherWellFormed),
    text_spine, text_spine, same]

/-! ## Unambiguous texts -/

/-- How tightly a tree is bound. What is no operation needs no parentheses. -/
def precedence : OperatorTree → Nat
  | .operation operator .. => operator.precedence
  | _ => 10

theorem precedence_lt (operator : BinaryOperator) : operator.precedence < 10 := by
  cases operator <;> decide +kernel

theorem le_precedence_of_not_isWrapped {tree : OperatorTree} {parent : BinaryOperator}
    (notWrapped : tree.isWrapped parent false = false) :
    parent.precedence ≤ tree.precedence := by
  cases tree with
  | atom | negation => exact Nat.le_of_lt (precedence_lt parent)
  | operation operator => simpa [isWrapped, precedence] using notWrapped

theorem lt_precedence_of_not_isWrapped {tree : OperatorTree} {parent : BinaryOperator}
    (notWrapped : tree.isWrapped parent true = false) :
    parent.precedence < tree.precedence := by
  cases tree with
  | atom | negation => exact precedence_lt parent
  | operation operator =>
      simp only [isWrapped, Bool.true_and, Bool.or_eq_false_iff, decide_eq_false_iff_not,
        beq_eq_false_iff_ne] at notWrapped
      exact Nat.lt_of_le_of_ne (Nat.not_lt.1 notWrapped.1) (Ne.symm notWrapped.2)

theorem le_of_mem_spineOf {tree : OperatorTree} {parent : BinaryOperator}
    (inside : ∀ entry ∈ tree.spine.2, tree.precedence ≤ entry.1.precedence) :
    ∀ entry ∈ (spineOf (tree.isWrapped parent false) tree.text tree.spine).2,
      parent.precedence ≤ entry.1.precedence := by
  intro entry member
  cases wrapped : tree.isWrapped parent false with
  | true => simp [wrapped, spineOf] at member
  | false =>
      simp only [wrapped, spineOf] at member
      exact Nat.le_trans (le_precedence_of_not_isWrapped wrapped) (inside entry member)

theorem lt_of_mem_spineOf {tree : OperatorTree} {parent : BinaryOperator}
    (inside : ∀ entry ∈ tree.spine.2, tree.precedence ≤ entry.1.precedence) :
    ∀ entry ∈ (spineOf (tree.isWrapped parent true) tree.text tree.spine).2,
      parent.precedence < entry.1.precedence := by
  intro entry member
  cases wrapped : tree.isWrapped parent true with
  | true => simp [wrapped, spineOf] at member
  | false =>
      simp only [wrapped, spineOf] at member
      exact Nat.lt_of_lt_of_le (lt_precedence_of_not_isWrapped wrapped) (inside entry member)

theorem precedence_le_of_mem_spine {tree : OperatorTree} :
    ∀ entry ∈ tree.spine.2, tree.precedence ≤ entry.1.precedence := by
  induction tree with
  | atom | negation => simp [spine]
  | operation operator left right inLeft inRight =>
      intro entry member
      rcases List.mem_append.1 member with inFirst | later
      · exact le_of_mem_spineOf inLeft entry inFirst
      · rcases List.mem_cons.1 later with rfl | inSecond
        · exact Nat.le_refl _
        · exact Nat.le_of_lt (lt_of_mem_spineOf inRight entry inSecond)

/-- The outermost operator is the last one of those that bind most loosely. -/
theorem split_unique {left right otherLeft otherRight : List (BinaryOperator × List Char)}
    {entry other : BinaryOperator × List Char}
    (same : left ++ entry :: right = otherLeft ++ other :: otherRight)
    (inLeft : ∀ earlier ∈ left, entry.1.precedence ≤ earlier.1.precedence)
    (inRight : ∀ later ∈ right, entry.1.precedence < later.1.precedence)
    (inOtherLeft : ∀ earlier ∈ otherLeft, other.1.precedence ≤ earlier.1.precedence)
    (inOtherRight : ∀ later ∈ otherRight, other.1.precedence < later.1.precedence) :
    left = otherLeft ∧ entry = other ∧ right = otherRight := by
  rcases List.append_eq_append_iff.1 same with ⟨between, extended, rest⟩ | ⟨between, extended, rest⟩
  · cases between with
    | nil =>
        simp only [List.nil_append, List.cons.injEq] at rest
        exact ⟨by simpa using extended.symm, rest⟩
    | cons first between =>
        simp only [List.cons_append, List.cons.injEq] at rest
        obtain ⟨rfl, rest⟩ := rest
        have looser := inOtherLeft entry (by simp [extended])
        have tighter := inRight other (by simp [rest])
        omega
  · cases between with
    | nil =>
        simp only [List.nil_append, List.cons.injEq] at rest
        exact ⟨by simpa using extended, rest.1.symm, rest.2.symm⟩
    | cons first between =>
        simp only [List.cons_append, List.cons.injEq] at rest
        obtain ⟨rfl, rest⟩ := rest
        have looser := inLeft other (by simp [extended])
        have tighter := inOtherRight entry (by simp [rest])
        omega

theorem head?_text_ne {tree : OperatorTree} (wellFormed : tree.IsWellFormed)
    (noOperation : tree.isOperation = false) : tree.text.head? ≠ some '(' := by
  cases tree with
  | operation => cases noOperation
  | negation operand => simp [text]
  | atom text =>
      intro starts
      have parenthesis : '(' ∈ text := List.mem_of_mem_head? starts
      exact absurd (wellFormed.atomic _ parenthesis) (by decide)

theorem spine_ne_wrap {tree : OperatorTree} (wellFormed : tree.IsWellFormed) (inner : List Char) :
    tree.spine ≠ (wrap true inner, []) := by
  intro same
  have noOperation : tree.isOperation = false := by
    cases tree with
    | atom | negation => rfl
    | operation => simp [spine] at same
  have sameText : tree.text = wrap true inner := by
    rw [← text_spine, same]
    simp [Spine.text]
  exact head?_text_ne wellFormed noOperation (by simp [sameText, wrap])

/-- The spine of an operand shows whether it is wrapped, and its text. -/
theorem text_eq_of_spineOf_eq {left right : OperatorTree} (wellFormed : left.IsWellFormed)
    (otherWellFormed : right.IsWellFormed) {isWrapped otherIsWrapped : Bool}
    (same : spineOf isWrapped left.text left.spine =
      spineOf otherIsWrapped right.text right.spine) :
    left.text = right.text := by
  cases isWrapped <;> cases otherIsWrapped <;>
    simp only [spineOf, Bool.false_eq_true, if_false, if_true] at same
  · rw [← text_spine, same, text_spine]
  · exact absurd same (spine_ne_wrap wellFormed _)
  · exact absurd same.symm (spine_ne_wrap otherWellFormed _)
  · simpa [wrap] using same

theorem spineOf_isOperation (tree : OperatorTree) :
    spineOf tree.isOperation tree.text tree.spine = (wrap tree.isOperation tree.text, []) := by
  cases tree <;> simp [spineOf, isOperation, spine, wrap]

theorem eq_of_text_eq {left right : OperatorTree} (wellFormed : left.IsWellFormed)
    (otherWellFormed : right.IsWellFormed) (same : left.text = right.text) : left = right := by
  have sameSpine := spine_eq_of_text_eq wellFormed otherWellFormed same
  induction left generalizing right with
  | atom text =>
      cases right with
      | atom other => rw [show text = other from same]
      | negation operand =>
          -- An atom has no sign, and a negation starts with one.
          have signed : text.head? = some '-' := by
            rw [show text = _ from same]
            rfl
          exact absurd signed wellFormed.unsigned
      | operation => simp [spine] at sameSpine
  | negation operand induction =>
      cases right with
      | atom text =>
          have signed : text.head? = some '-' := by
            rw [← show _ = text from same]
            rfl
          exact absurd signed otherWellFormed.unsigned
      | negation other =>
          have operandWellFormed : operand.IsWellFormed := wellFormed
          have otherOperandWellFormed : other.IsWellFormed := otherWellFormed
          have sameOperand : operand.text = other.text := by
            apply text_eq_of_spineOf_eq operandWellFormed otherOperandWellFormed
            rw [spineOf_isOperation, spineOf_isOperation]
            simpa [text] using same
          rw [induction operandWellFormed otherOperandWellFormed sameOperand
            (spine_eq_of_text_eq operandWellFormed otherOperandWellFormed sameOperand)]
      | operation => simp [spine] at sameSpine
  | operation operator left right inLeft inRight =>
      cases right with
      | atom | negation => simp [spine] at sameSpine
      | operation otherOperator otherLeft otherRight =>
          simp only [spine, Prod.mk.injEq] at sameSpine
          -- The operator of a tree is the last of the weakest ones in its spine: both split there.
          obtain ⟨sameLeft, sameOperator, sameRight⟩ := split_unique sameSpine.2
            (le_of_mem_spineOf precedence_le_of_mem_spine)
            (lt_of_mem_spineOf precedence_le_of_mem_spine)
            (le_of_mem_spineOf precedence_le_of_mem_spine)
            (lt_of_mem_spineOf precedence_le_of_mem_spine)
          have leftText := text_eq_of_spineOf_eq wellFormed.1 otherWellFormed.1
            (Prod.ext sameSpine.1 sameLeft)
          have rightText := text_eq_of_spineOf_eq wellFormed.2 otherWellFormed.2
            (Prod.ext (Prod.mk.inj sameOperator).2 sameRight)
          rw [(Prod.mk.inj sameOperator).1,
            inLeft wellFormed.1 otherWellFormed.1 leftText
              (spine_eq_of_text_eq wellFormed.1 otherWellFormed.1 leftText),
            inRight wellFormed.2 otherWellFormed.2 rightText
              (spine_eq_of_text_eq wellFormed.2 otherWellFormed.2 rightText)]

end OperatorTree

end MacroSandbox
