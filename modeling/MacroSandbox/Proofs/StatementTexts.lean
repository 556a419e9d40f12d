import MacroSandbox.Proofs.ExpressionTexts

/-! The texts of the statements of loop programs, from which the statements can be read off.

The first word of a line tells what kind of statement starts there, and the indentation of its lines
tells a block from what follows it. The text does not say which variables are declared together, so
they are to be declared one by one. -/

namespace MacroSandbox

open Text

/-! ## Types -/

namespace DeclaredType

theorem name_injective {left right : DeclaredType} (same : left.name.toList = right.name.toList) :
    left = right := by
  revert same
  cases left <;> cases right <;> decide

theorem isUnmarked_name (type : DeclaredType) : IsUnmarked type.name.toList := by
  cases type <;> decide

theorem toList_renderOption (type : Option DeclaredType) :
    (renderOption type).toList = match type with
      | some type => "Some".toList ++ '(' :: (type.name.toList ++ [')'])
      | none => "None".toList := by
  cases type <;> simp [renderOption]

theorem eq_of_options {left right : Option DeclaredType} {rest beyond : List Char}
    (same : (renderOption left).toList ++ rest = (renderOption right).toList ++ beyond) :
    left = right ∧ rest = beyond := by
  rw [toList_renderOption, toList_renderOption] at same
  cases left with
  | none =>
      cases right with
      | none => exact ⟨rfl, List.append_cancel_left same⟩
      | some type => cases same
  | some type =>
      cases right with
      | none => cases same
      | some other =>
          simp only [List.append_assoc, List.append_cancel_left_eq, List.cons_append, List.cons.injEq,
            true_and, List.nil_append] at same
          rcases eq_of_words (isUnmarked_name type) (isUnmarked_name other) (isMarked_cons rfl _)
            (isMarked_cons rfl _) same with ⟨sameName, sameRest⟩
          exact ⟨congrArg some (name_injective sameName), (List.cons.inj sameRest).2⟩

end DeclaredType

/-! ## Statements -/

namespace LoopStatement

def indent (level : Nat) : List Char :=
  List.replicate (2 * level) ' '

theorem indent_succ (level : Nat) : indent (level + 1) = indent level ++ [' ', ' '] := by
  rw [indent, indent, Nat.mul_succ, ← List.replicate_append_replicate]
  rfl

theorem toList_line (level : Nat) (text : String) :
    (line level text).toList = indent level ++ (text.toList ++ ['\n']) := by
  have blanks : (String.join (List.replicate level "  ")).toList = indent level := by
    induction level with
    | zero => rfl
    | succ level induction =>
        rw [List.replicate_succ', String.join_append, String.toList_append, induction, indent_succ]
        rfl
  simp [line, blanks]

def text (heap : Heap) (level : Nat) (statement : LoopStatement) : List Char :=
  (statement.render heap level).toList

def textOfBlock (heap : Heap) (level : Nat) (statements : List LoopStatement) : List Char :=
  (renderBlock heap level statements).toList

def textOfArms (heap : Heap) (level : Nat) (keyword : String) (arms : List LoopArm) : List Char :=
  (renderArms heap level keyword arms).toList

def textOfArm (heap : Heap) (level : Nat) : LoopArm → List Char
  | .mk condition body => condition.text heap ++ ':' :: '\n' :: textOfBlock heap (level + 1) body

def textOfElse (heap : Heap) (level : Nat) : List LoopStatement → List Char
  | [] => []
  | statement :: rest =>
      indent level ++ ("else".toList ++ ':' :: '\n' :: textOfBlock heap (level + 1) (statement :: rest))

section

variable (heap : Heap) (level : Nat)

attribute [local simp] text textOfBlock textOfArms textOfArm textOfElse render
  renderBlock renderArms renderArm renderDeclaration toList_line LoopExpr.text
  LoopExpr.intercalate_renderList

theorem textOfBlock_cons (statement : LoopStatement) (rest : List LoopStatement) :
    textOfBlock heap level (statement :: rest) =
      text heap level statement ++ textOfBlock heap level rest := by
  simp

theorem textOfArms_cons (keyword : String) (arm : LoopArm) (rest : List LoopArm) :
    textOfArms heap level keyword (arm :: rest) =
      indent level ++ (keyword.toList ++
        (textOfArm heap level arm ++ textOfArms heap level "elif " rest)) := by
  cases arm
  simp

theorem text_dim (declaration : LoopDeclaration) :
    text heap level (.dim [declaration]) =
      indent level ++ ("dim".toList ++ ' ' :: (declaration.name.toList ++ '[' ::
        (row (declaration.bounds.map (LoopExpr.text heap)) ++ ']' :: ':' :: ' ' ::
          ((DeclaredType.renderOption declaration.type).toList ++ ['\n'])))) := by
  simp

theorem text_assign (name : String) (value : LoopExpr) :
    text heap level (.assign name value) =
      indent level ++ (name.toList ++ ' ' :: '=' :: ' ' :: (value.text heap ++ ['\n'])) := by
  simp

theorem text_assignElement (name : String) (indices : List LoopExpr) (value : LoopExpr) :
    text heap level (.assignElement name indices value) =
      indent level ++ (name.toList ++ '[' :: (row (indices.map (LoopExpr.text heap)) ++
        ']' :: ' ' :: '=' :: ' ' :: (value.text heap ++ ['\n']))) := by
  simp

def textOfOptional (heap : Heap) (lead : List Char) : Option LoopExpr → List Char
  | some expression => lead ++ expression.text heap
  | none => []

theorem text_overwrite (name : String) (start : LoopExpr) (length : Option LoopExpr)
    (value : LoopExpr) :
    text heap level (.overwrite name start length value) =
      indent level ++ ("mid".toList ++ ' ' :: (name.toList ++ '[' :: (start.text heap ++
        (textOfOptional heap [';', ' '] length ++ ']' :: ' ' :: '=' :: ' ' ::
          (value.text heap ++ ['\n']))))) := by
  cases length <;> simp [textOfOptional]

theorem text_evaluate (expression : LoopExpr) :
    text heap level (.evaluate expression) = indent level ++ (expression.text heap ++ ['\n']) := by
  simp

theorem text_branch (arms : List LoopArm) (otherwise : List LoopStatement) :
    text heap level (.branch arms otherwise) =
      textOfArms heap level "if " arms ++ textOfElse heap level otherwise := by
  cases otherwise <;> simp

theorem text_forRange (index : String) (start finish : LoopExpr) (step : Option LoopExpr)
    (body : List LoopStatement) :
    text heap level (.forRange index start finish step body) =
      indent level ++ ("for".toList ++ ' ' :: (index.toList ++ ' ' :: '=' :: ' ' ::
        (start.text heap ++ ' ' :: ("to ".toList ++ (finish.text heap ++
          (textOfOptional heap " step ".toList step ++
            ':' :: '\n' :: textOfBlock heap (level + 1) body)))))) := by
  cases step <;> simp [textOfOptional]

theorem text_forEach (index : String) (items : LoopExpr) (body : List LoopStatement) :
    text heap level (.forEach index items body) =
      indent level ++ ("for".toList ++ ' ' :: ("each".toList ++ ' ' :: (index.toList ++
        ' ' :: ("in ".toList ++ (items.text heap ++ ':' :: '\n' ::
          textOfBlock heap (level + 1) body))))) := by
  simp

def wordOf : LoopTest → String
  | .while => "while"
  | .until => "until"

def textOfTest (heap : Heap) : Option (LoopTest × LoopExpr) → List Char
  | some (test, condition) => (wordOf test).toList ++ ' ' :: condition.text heap
  | none => ['f', 'o', 'r', 'e', 'v', 'e', 'r']

theorem text_conditional (condition : Option (LoopTest × LoopExpr)) (testFirst : Bool)
    (body : List LoopStatement) :
    text heap level (.conditional condition testFirst body) =
      indent level ++ ("loop".toList ++ ' ' :: (textOfTest heap condition ++ ' ' :: ("tested ".toList ++
        ((if testFirst then "before" else "after").toList ++
          ':' :: '\n' :: textOfBlock heap (level + 1) body)))) := by
  have isTest : (renderTest heap condition).toList = textOfTest heap condition := by
    rcases condition with _ | ⟨_ | _, condition⟩
    · exact (by decide : "forever".toList = ['f', 'o', 'r', 'e', 'v', 'e', 'r'])
    · rw [renderTest, String.toList_append]
      rfl
    · rw [renderTest, String.toList_append]
      rfl
  rw [text, render, String.toList_append, toList_line]
  simp only [String.toList_append, isTest, textOfBlock, List.append_assoc]
  rfl

theorem text_break (kind : LoopKind) :
    text heap level (.break kind) =
      indent level ++ ("break".toList ++ ' ' :: ((match kind with
        | .for => "for"
        | .do => "do").toList ++ ['\n'])) := by
  cases kind <;> simp

theorem text_return :
    text heap level .return = indent level ++ ("return".toList ++ ['\n']) := by
  simp

end

end LoopStatement

/-! ## Legible statements -/

structure LoopDeclaration.IsLegible (library : Library) (floats : Float → Prop)
    (declaration : LoopDeclaration) : Prop where
  name : IsCodeName declaration.name
  bounds : LoopExpr.AreLegible library floats declaration.bounds

namespace LoopStatement

mutual

/-- A statement that can be read off its text: its parts can be, variables are declared one by one, and
a branching statement has a condition. -/
def IsLegible (library : Library) (floats : Float → Prop) : LoopStatement → Prop
  | .dim declarations =>
      ∃ declaration, declarations = [declaration] ∧ declaration.IsLegible library floats
  | .assign name value => IsCodeName name ∧ value.IsLegible library floats
  | .assignElement name indices value =>
      IsCodeName name ∧ LoopExpr.AreLegible library floats indices ∧ value.IsLegible library floats
  | .overwrite name start length value =>
      IsCodeName name ∧ start.IsLegible library floats ∧
        (∀ given ∈ length, given.IsLegible library floats) ∧ value.IsLegible library floats
  | .evaluate expression => expression.IsLegible library floats
  | .branch arms otherwise =>
      arms ≠ [] ∧ AreLegibleArms library floats arms ∧ AreLegible library floats otherwise
  | .forRange index start finish step body =>
      IsCodeName index ∧ start.IsLegible library floats ∧ finish.IsLegible library floats ∧
        (∀ given ∈ step, given.IsLegible library floats) ∧ AreLegible library floats body
  | .forEach index items body =>
      IsCodeName index ∧ items.IsLegible library floats ∧ AreLegible library floats body
  | .conditional condition _ body =>
      (∀ tested ∈ condition, tested.2.IsLegible library floats) ∧ AreLegible library floats body
  | .break _ | .return => True

def AreLegibleArms (library : Library) (floats : Float → Prop) : List LoopArm → Prop
  | [] => True
  | arm :: rest => IsLegibleArm library floats arm ∧ AreLegibleArms library floats rest

def IsLegibleArm (library : Library) (floats : Float → Prop) : LoopArm → Prop
  | .mk condition body => condition.IsLegible library floats ∧ AreLegible library floats body

def AreLegible (library : Library) (floats : Float → Prop) : List LoopStatement → Prop
  | [] => True
  | statement :: rest => statement.IsLegible library floats ∧ AreLegible library floats rest

end

variable {library : Library} {floats : Float → Prop} {heap other : Heap} {level : Nat}

/-! ### What a statement starts with -/

inductive Kind
  | dim
  | overwrite
  | branch
  | for
  | conditional
  | break
  | return
  | assign
  | element
  | evaluate
  deriving DecidableEq

def kind : LoopStatement → Kind
  | .dim _ => .dim
  | .assign .. => .assign
  | .assignElement .. => .element
  | .overwrite .. => .overwrite
  | .evaluate (.index ..) => .element
  | .evaluate _ => .evaluate
  | .branch .. => .branch
  | .forRange .. | .forEach .. => .for
  | .conditional .. => .conditional
  | .break _ => .break
  | .return => .return

def kindOf (word : List Char) (next : Option Char) : Kind :=
  if word = "dim".toList then .dim
  else if word = "mid".toList then .overwrite
  else if word = "if".toList then .branch
  else if word = "for".toList then .for
  else if word = "loop".toList then .conditional
  else if word = "break".toList then .break
  else if word = "return".toList then .return
  else if word = "builtin".toList ∨ word = "call".toList then .evaluate
  else if next = some '[' then .element
  else if next = some ' ' then .assign
  else .evaluate

/-- The text of a statement behind the blanks in front of it tells its kind, and it is no further
condition of a statement before it. -/
structure Begins (statement : LoopStatement) (text : List Char) : Prop where
  kind : kindOf (head text).1 (head text).2 = statement.kind
  noArm : (head text).1 ∉ ["elif".toList, "else".toList]
  noBlank : text.head? ≠ some ' '

theorem kindOf_of_free {word : List Char} (free : word ∉ keywords) (next : Option Char) :
    kindOf word next =
      if next = some '[' then .element else if next = some ' ' then .assign else .evaluate := by
  have noKeyword (keyword : List Char) (listed : keyword ∈ keywords) : word ≠ keyword := by
    rintro rfl
    exact free listed
  rw [kindOf, if_neg (noKeyword _ (by decide)), if_neg (noKeyword _ (by decide)),
    if_neg (noKeyword _ (by decide)), if_neg (noKeyword _ (by decide)),
    if_neg (noKeyword _ (by decide)), if_neg (noKeyword _ (by decide)),
    if_neg (noKeyword _ (by decide)), if_neg]
  exact not_or.2 ⟨noKeyword _ (by decide), noKeyword _ (by decide)⟩

theorem begins_of_keyword {statement : LoopStatement} {word rest : List Char} {mark : Char}
    (unmarked : IsUnmarked word) (marks : isMark mark = true)
    (isKind : kindOf word (some mark) = statement.kind)
    (noArm : word ∉ ["elif".toList, "else".toList]) (noBlank : word.head? ∉ [none, some ' ']) :
    Begins statement (word ++ mark :: rest) := by
  have isHead : head (word ++ mark :: rest) = (word, some mark) :=
    head_append unmarked (isMarked_cons marks rest)
  refine ⟨by rw [isHead]; exact isKind, by rw [isHead]; exact noArm, ?_⟩
  cases word with
  | nil => exact absurd List.mem_cons_self noBlank
  | cons first later =>
      intro isBlank
      exact noBlank (by rw [List.head?_cons, ← isBlank]; simp)

theorem begins_of_name {statement : LoopStatement} {name : String} (plain : IsCodeName name)
    {mark : Char} (marks : isMark mark = true) (rest : List Char)
    (isKind : (if mark = '[' then Kind.element else if mark = ' ' then .assign else .evaluate) =
      statement.kind) : Begins statement (name.toList ++ mark :: rest) := by
  have noKeyword (keyword : List Char) (listed : keyword ∈ keywords) : name.toList ≠ keyword :=
    fun isKeyword => plain.noKeyword (isKeyword ▸ listed)
  refine begins_of_keyword plain.unmarked marks ?_ ?_ ?_
  · rw [kindOf_of_free plain.noKeyword, ← isKind]
    simp only [Option.some.injEq]
  · intro listed
    exact plain.noKeyword ((by decide : ∀ word ∈ ["elif".toList, "else".toList], word ∈ keywords) _
      listed)
  · rcases plain.starts with ⟨first, starts, _⟩
    have unmarked := plain.unmarked first (List.mem_of_mem_head? starts)
    rw [Option.mem_def.1 starts]
    intro listed
    simp only [List.mem_cons, reduceCtorEq, Option.some.injEq, List.not_mem_nil, or_false, false_or]
      at listed
    rw [listed] at unmarked
    cases unmarked

theorem begins_of_expression {expression : LoopExpr} (legible : expression.IsLegible library floats)
    (rest : List Char) :
    Begins (.evaluate expression) (expression.text heap ++ '\n' :: rest) := by
  have starts := @LoopExpr.starts library floats heap expression legible ('\n' :: rest)
    (isBehind_cons rfl rest)
  have noArm : ∀ word ∈ ["elif".toList, "else".toList], word ∈ keywords := by decide
  have isKind : kind (.evaluate expression) =
      if expression.kind = .element then .element else .evaluate := by
    cases expression with
    | constant value => cases value <;> rfl
    | _ => rfl
  have told {word : List Char} {next : Option Char}
      (starts : LoopExpr.Starts ('\n' :: rest) expression word next) :
      kindOf word next = kind (.evaluate expression) ∧ word ∉ ["elif".toList, "else".toList] := by
    rw [isKind]
    cases starts with
    | quoted | builtin | call | writeMemory => exact ⟨rfl, by decide⟩
    | group isGroup =>
        rw [isGroup]
        exact ⟨rfl, by decide⟩
    | constant isWord isWordKind =>
        rw [kindOf_of_free isWord.not_mem_keywords, isWordKind]
        exact ⟨rfl, fun listed => isWord.not_mem_keywords (noArm _ listed)⟩
    | var plain | index plain =>
        rw [kindOf_of_free plain.noKeyword]
        exact ⟨rfl, fun listed => plain.noKeyword (noArm _ listed)⟩
  refine ⟨(told starts).1, (told starts).2, fun isBlank => ?_⟩
  rcases List.head?_eq_some_iff.1 isBlank with ⟨later, isText⟩
  rw [isText, head_of_isMark rfl] at starts
  rcases starts.of_nil with impossible | impossible <;> cases impossible

theorem exists_begins {statement : LoopStatement} (legible : statement.IsLegible library floats)
    (rest : List Char) :
    ∃ body, statement.text heap level ++ rest = indent level ++ body ∧ Begins statement body := by
  cases statement with
  | dim declarations =>
      rw [IsLegible] at legible
      rcases legible with ⟨declaration, rfl, _⟩
      rw [text_dim, List.append_assoc, List.append_assoc]
      exact ⟨_, rfl, begins_of_keyword (by decide) rfl rfl (by decide) (by decide)⟩
  | assign name value =>
      rw [IsLegible] at legible
      rw [text_assign, List.append_assoc, List.append_assoc]
      exact ⟨_, rfl, begins_of_name legible.1 rfl _ rfl⟩
  | assignElement name indices value =>
      rw [IsLegible] at legible
      rw [text_assignElement, List.append_assoc, List.append_assoc]
      exact ⟨_, rfl, begins_of_name legible.1 rfl _ rfl⟩
  | overwrite name start length value =>
      rw [text_overwrite, List.append_assoc, List.append_assoc]
      exact ⟨_, rfl, begins_of_keyword (by decide) rfl rfl (by decide) (by decide)⟩
  | evaluate expression =>
      rw [IsLegible] at legible
      rw [text_evaluate, List.append_assoc, List.append_assoc]
      exact ⟨_, rfl, begins_of_expression legible rest⟩
  | branch arms otherwise =>
      rw [IsLegible] at legible
      rcases arms with _ | ⟨arm, arms⟩
      · exact absurd rfl legible.1
      · rw [text_branch, textOfArms_cons, List.append_assoc, List.append_assoc, List.append_assoc,
          show "if ".toList = "if".toList ++ [' '] from rfl, List.append_assoc]
        exact ⟨_, rfl, begins_of_keyword (by decide) rfl rfl (by decide) (by decide)⟩
  | forRange index start finish step body =>
      rw [text_forRange, List.append_assoc, List.append_assoc]
      exact ⟨_, rfl, begins_of_keyword (by decide) rfl rfl (by decide) (by decide)⟩
  | forEach index items body =>
      rw [text_forEach, List.append_assoc, List.append_assoc]
      exact ⟨_, rfl, begins_of_keyword (by decide) rfl rfl (by decide) (by decide)⟩
  | conditional condition testFirst body =>
      rw [text_conditional, List.append_assoc, List.append_assoc]
      exact ⟨_, rfl, begins_of_keyword (by decide) rfl rfl (by decide) (by decide)⟩
  | «break» kind =>
      rw [text_break, List.append_assoc, List.append_assoc]
      exact ⟨_, rfl, begins_of_keyword (by decide) rfl rfl (by decide) (by decide)⟩
  | «return» =>
      rw [text_return, List.append_assoc, List.append_assoc]
      exact ⟨_, rfl, begins_of_keyword (by decide) rfl rfl (by decide) (by decide)⟩

/-! ### What follows a statement -/

/-- No line of a block of this level starts here. -/
def IsOutside (level : Nat) (rest : List Char) : Prop :=
  ¬ indent level <+: rest

/-- What follows a statement of a block: neither a line of a block inside of it, nor a further
condition. -/
structure Follows (level : Nat) (rest : List Char) : Prop where
  isOutside : IsOutside (level + 1) rest
  noArm : ∀ later, rest = indent level ++ later → (head later).1 ∉ ["elif".toList, "else".toList]

theorem indent_extends (level : Nat) : indent level <+: indent (level + 1) :=
  ⟨[' ', ' '], (indent_succ level).symm⟩

theorem IsOutside.follows {rest : List Char} (isOutside : IsOutside level rest) :
    Follows level rest where
  isOutside inside := isOutside ((indent_extends level).trans inside)
  noArm later starts := absurd ⟨later, starts.symm⟩ isOutside

theorem isOutside_of_line {body : List Char} (noBlank : body.head? ≠ some ' ') :
    IsOutside (level + 1) (indent level ++ body) := by
  rintro ⟨rest, same⟩
  rw [indent_succ, List.append_assoc] at same
  exact noBlank (congrArg List.head? (List.append_cancel_left same)).symm

theorem Begins.follows {statement : LoopStatement} {body : List Char}
    (begins : Begins statement body) : Follows level (indent level ++ body) where
  isOutside := isOutside_of_line begins.noBlank
  noArm later starts := by
    rw [← List.append_cancel_left starts]
    exact begins.noArm

theorem follows_block {statements : List LoopStatement}
    (legible : AreLegible library floats statements) {rest : List Char}
    (isOutside : IsOutside level rest) :
    Follows level (textOfBlock heap level statements ++ rest) := by
  cases statements with
  | nil => exact isOutside.follows
  | cons statement statements =>
      rw [AreLegible] at legible
      rcases @exists_begins library floats heap level _ legible.1
        (textOfBlock heap level statements ++ rest) with ⟨body, same, begins⟩
      rw [textOfBlock_cons, List.append_assoc, same]
      exact begins.follows

/-! ### Reading statements off -/

theorem IsOutside.ne_block {rest beyond : List Char} (isOutside : IsOutside level rest)
    {statement : LoopStatement} {statements : List LoopStatement}
    (legible : AreLegible library floats (statement :: statements)) :
    rest ≠ textOfBlock heap level (statement :: statements) ++ beyond := by
  rw [AreLegible] at legible
  rcases @exists_begins library floats heap level _ legible.1
    (textOfBlock heap level statements ++ beyond) with ⟨body, same, _⟩
  rw [textOfBlock_cons, List.append_assoc, same]
  rintro rfl
  exact isOutside (List.prefix_append _ _)

theorem isUnmarked_place (testFirst : Bool) :
    IsUnmarked (if testFirst then "before" else "after").toList := by
  cases testFirst <;> decide

theorem place_injective {left right : Bool}
    (same : (if left then "before" else "after").toList = (if right then "before" else "after").toList) :
    left = right := by
  revert same
  cases left <;> cases right <;> decide

theorem kind_eq_of_texts {left right : LoopStatement} (legible : left.IsLegible library floats)
    (legibleToo : right.IsLegible library floats) {rest beyond : List Char}
    (same : left.text heap level ++ rest = right.text other level ++ beyond) :
    left.kind = right.kind := by
  rcases @exists_begins library floats heap level _ legible rest with ⟨body, isBody, begins⟩
  rcases @exists_begins library floats other level _ legibleToo beyond with
    ⟨otherBody, isOtherBody, otherBegins⟩
  rw [isBody, isOtherBody] at same
  rw [← begins.kind, List.append_cancel_left same, otherBegins.kind]

theorem isBehind_optional (heap : Heap) {first close : Char} (lead : List Char)
    (expression : Option LoopExpr) (rest : List Char)
    (opens : isCloser first = true) (closes : isCloser close = true) :
    IsBehind (textOfOptional heap (first :: lead) expression ++ close :: rest) := by
  cases expression with
  | none => exact isBehind_cons closes rest
  | some => exact isBehind_cons opens _

/-- A part that may be missing is read off in front of a mark that it does not start with. -/
theorem eq_of_optional (apart : Float.AreToldApart floats) {first close : Char}
    (differs : first ≠ close) (closes : isCloser close = true)
    {lead : List Char} {left right : Option LoopExpr}
    (legible : ∀ given ∈ left, given.IsLegible library floats)
    (legibleToo : ∀ given ∈ right, given.IsLegible library floats) {rest beyond : List Char}
    (same : textOfOptional heap (first :: lead) left ++ close :: rest =
      textOfOptional other (first :: lead) right ++ close :: beyond) :
    left = right ∧ rest = beyond := by
  cases left with
  | none =>
      cases right with
      | none => exact ⟨rfl, (List.cons.inj same).2⟩
      | some => exact absurd (List.cons.inj same).1.symm differs
  | some left =>
      cases right with
      | none => exact absurd (List.cons.inj same).1 differs
      | some right =>
          simp only [textOfOptional, List.append_assoc, List.append_cancel_left_eq] at same
          rcases LoopExpr.eq_of_texts apart left right _ _ (legible left rfl) (legibleToo right rfl)
            (isBehind_cons closes rest) (isBehind_cons closes beyond) same with ⟨rfl, sameRest⟩
          exact ⟨rfl, (List.cons.inj sameRest).2⟩

theorem isUnmarked_wordOf (test : LoopTest) : IsUnmarked (wordOf test).toList := by
  cases test <;> decide

theorem wordOf_ne_forever (test : LoopTest) :
    (wordOf test).toList ≠ ['f', 'o', 'r', 'e', 'v', 'e', 'r'] := by
  cases test <;> decide

theorem wordOf_injective {left right : LoopTest}
    (same : (wordOf left).toList = (wordOf right).toList) : left = right := by
  revert same
  cases left <;> cases right <;> decide

theorem eq_of_tests (apart : Float.AreToldApart floats) {left right : Option (LoopTest × LoopExpr)}
    (legible : ∀ tested ∈ left, tested.2.IsLegible library floats)
    (legibleToo : ∀ tested ∈ right, tested.2.IsLegible library floats) {rest beyond : List Char}
    (same : textOfTest heap left ++ ' ' :: rest = textOfTest other right ++ ' ' :: beyond) :
    left = right ∧ rest = beyond := by
  have words {word found later others : List Char} (isWord : IsUnmarked word)
      (isFound : IsUnmarked found) (same : word ++ ' ' :: later = found ++ ' ' :: others) :
      word = found ∧ later = others := by
    rcases eq_of_words isWord isFound (isMarked_cons rfl _) (isMarked_cons rfl _) same with
      ⟨sameWord, sameLater⟩
    exact ⟨sameWord, (List.cons.inj sameLater).2⟩
  cases left with
  | none =>
      cases right with
      | none => exact ⟨rfl, (List.cons.inj (List.append_cancel_left same)).2⟩
      | some found =>
          rw [textOfTest, textOfTest, List.append_assoc, List.cons_append] at same
          exact absurd (words (by decide) (isUnmarked_wordOf _) same).1.symm (wordOf_ne_forever _)
  | some tested =>
      cases right with
      | none =>
          rw [textOfTest, textOfTest, List.append_assoc, List.cons_append] at same
          exact absurd (words (isUnmarked_wordOf _) (by decide) same).1 (wordOf_ne_forever _)
      | some found =>
          rw [textOfTest, textOfTest, List.append_assoc, List.cons_append, List.append_assoc,
            List.cons_append] at same
          rcases words (isUnmarked_wordOf _) (isUnmarked_wordOf _) same with ⟨sameWord, sameLater⟩
          rcases LoopExpr.eq_of_texts apart tested.2 found.2 _ _ (legible _ rfl) (legibleToo _ rfl)
            (isBehind_cons rfl _) (isBehind_cons rfl _) sameLater with ⟨sameCondition, sameRest⟩
          exact ⟨congrArg some (Prod.ext (wordOf_injective sameWord) sameCondition),
            (List.cons.inj sameRest).2⟩

structure FollowsArms (level : Nat) (rest : List Char) : Prop where
  isOutside : IsOutside (level + 1) rest
  noArm : ∀ later, rest = indent level ++ later → (head later).1 ≠ "elif".toList

theorem Follows.followsArms {rest : List Char} (follows : Follows level rest)
    (heap : Heap) (otherwise : List LoopStatement) :
    FollowsArms level (textOfElse heap level otherwise ++ rest) := by
  cases otherwise with
  | nil =>
      exact ⟨follows.isOutside, fun later starts isElif =>
        follows.noArm later starts (isElif ▸ List.mem_cons_self)⟩
  | cons statement statements =>
      rw [textOfElse, List.append_assoc, List.append_assoc]
      refine ⟨isOutside_of_line (by exact nofun), fun later starts => ?_⟩
      rw [← List.append_cancel_left starts, List.cons_append,
        head_append (by decide) (isMarked_cons rfl _)]
      exact (by decide : "else".toList ≠ "elif".toList)

theorem textOfLaterArms_cons (heap : Heap) (level : Nat) (arm : LoopArm) (arms : List LoopArm)
    (rest : List Char) :
    textOfArms heap level "elif " (arm :: arms) ++ rest =
      indent level ++ ("elif".toList ++ ' ' :: (textOfArm heap level arm ++
        (textOfArms heap level "elif " arms ++ rest))) := by
  simp [textOfArms_cons]

theorem FollowsArms.isOutside_arms {rest : List Char} (follows : FollowsArms level rest)
    (heap : Heap) (arms : List LoopArm) :
    IsOutside (level + 1) (textOfArms heap level "elif " arms ++ rest) := by
  cases arms with
  | nil => exact follows.isOutside
  | cons arm arms =>
      rw [textOfLaterArms_cons]
      exact isOutside_of_line (by exact nofun)

theorem FollowsArms.ne_arm {rest beyond : List Char} (follows : FollowsArms level rest)
    (arm : LoopArm) (arms : List LoopArm) :
    rest ≠ textOfArms heap level "elif " (arm :: arms) ++ beyond := by
  rw [textOfLaterArms_cons]
  intro same
  refine follows.noArm _ same ?_
  rw [head_append (by decide) (isMarked_cons rfl _)]

theorem Follows.ne_else {rest beyond : List Char} (follows : Follows level rest)
    (statement : LoopStatement) (statements : List LoopStatement) :
    rest ≠ textOfElse heap level (statement :: statements) ++ beyond := by
  rw [textOfElse, List.append_assoc, List.append_assoc, List.cons_append]
  intro same
  refine follows.noArm _ same ?_
  rw [head_append (by decide) (isMarked_cons rfl _)]
  exact List.mem_cons_of_mem _ List.mem_cons_self

/-- A statement is told from all others by its text, in front of anything that can follow it. -/
def IsReadOff (library : Library) (floats : Float → Prop) (heap other : Heap)
    (left : LoopStatement) : Prop :=
  ∀ (right : LoopStatement) (level : Nat) (rest beyond : List Char), left.IsLegible library floats →
    right.IsLegible library floats → Follows level rest → Follows level beyond →
    left.text heap level ++ rest = right.text other level ++ beyond → left = right ∧ rest = beyond

def AreReadOff (library : Library) (floats : Float → Prop) (heap other : Heap)
    (left : List LoopStatement) : Prop :=
  ∀ (right : List LoopStatement) (level : Nat) (rest beyond : List Char),
    AreLegible library floats left → AreLegible library floats right → IsOutside level rest →
    IsOutside level beyond →
    textOfBlock heap level left ++ rest = textOfBlock other level right ++ beyond →
    left = right ∧ rest = beyond

def IsReadOffArm (library : Library) (floats : Float → Prop) (heap other : Heap) (left : LoopArm) :
    Prop :=
  ∀ (right : LoopArm) (level : Nat) (rest beyond : List Char), IsLegibleArm library floats left →
    IsLegibleArm library floats right → IsOutside (level + 1) rest → IsOutside (level + 1) beyond →
    textOfArm heap level left ++ rest = textOfArm other level right ++ beyond →
    left = right ∧ rest = beyond

def AreReadOffArms (library : Library) (floats : Float → Prop) (heap other : Heap)
    (left : List LoopArm) : Prop :=
  ∀ (right : List LoopArm) (level : Nat) (rest beyond : List Char),
    AreLegibleArms library floats left → AreLegibleArms library floats right →
    FollowsArms level rest → FollowsArms level beyond →
    textOfArms heap level "elif " left ++ rest = textOfArms other level "elif " right ++ beyond →
    left = right ∧ rest = beyond

theorem eq_of_else {left right : List LoopStatement}
    (reads : AreReadOff library floats heap other left) (legible : AreLegible library floats left)
    (legibleToo : AreLegible library floats right)
    {rest beyond : List Char} (follows : Follows level rest) (followsToo : Follows level beyond)
    (same : textOfElse heap level left ++ rest = textOfElse other level right ++ beyond) :
    left = right ∧ rest = beyond := by
  cases left with
  | nil =>
      cases right with
      | nil => exact ⟨rfl, same⟩
      | cons statement statements => exact absurd same (follows.ne_else statement statements)
  | cons statement statements =>
      cases right with
      | nil => exact absurd same.symm (followsToo.ne_else statement statements)
      | cons found others =>
          simp only [textOfElse, List.append_assoc, List.append_cancel_left_eq, List.cons_append,
            List.cons.injEq, true_and] at same
          exact reads _ _ _ _ legible legibleToo follows.isOutside followsToo.isOutside same

/-- The index of a loop over a range is not taken for the start of a loop over values. -/
theorem ne_each {name : String} (plain : IsCodeName name) {rest beyond : List Char} :
    name.toList ++ ' ' :: rest ≠ "each".toList ++ ' ' :: beyond := by
  intro same
  have sameName := (eq_of_words plain.unmarked (by decide) (isMarked_cons rfl _) (isMarked_cons rfl _)
    same).1
  exact plain.noKeyword (sameName ▸ by decide)

/-- No element that is written is taken for one that is read. -/
theorem ne_index_of_element (apart : Float.AreToldApart floats) {name found : String}
    {indices others : List LoopExpr} {value : LoopExpr} (plain : IsCodeName name)
    (areLegible : LoopExpr.AreLegible library floats indices)
    (legible : (LoopExpr.index found others).IsLegible library floats) {rest beyond : List Char} :
    text heap level (.assignElement name indices value) ++ rest ≠
      text other level (.evaluate (.index found others)) ++ beyond := by
  rw [LoopExpr.IsLegible] at legible
  intro same
  simp only [text_assignElement, text_evaluate, LoopExpr.text_index, List.append_assoc,
    List.append_cancel_left_eq, List.cons_append, List.nil_append] at same
  rcases LoopExpr.eq_of_applications (.inr rfl) (LoopExpr.eq_of_mem_texts apart indices) areLegible
    legible.2 rfl plain.unmarked legible.1.unmarked same with ⟨_, _, sameRest⟩
  cases (List.cons.inj sameRest).1

section

variable {rest beyond : List Char}

theorem eq_of_dims (apart : Float.AreToldApart floats) {declarations others : List LoopDeclaration}
    (legible : (LoopStatement.dim declarations).IsLegible library floats)
    (legibleToo : (LoopStatement.dim others).IsLegible library floats)
    (same : text heap level (.dim declarations) ++ rest = text other level (.dim others) ++ beyond) :
    declarations = others ∧ rest = beyond := by
  rw [IsLegible] at legible legibleToo
  rcases legible with ⟨⟨name, type, bounds⟩, rfl, isName, areBounds⟩
  rcases legibleToo with ⟨⟨otherName, otherType, otherBounds⟩, rfl, isOtherName, areOtherBounds⟩
  simp only [text_dim, List.append_assoc, List.append_cancel_left_eq, List.cons_append,
    List.cons.injEq, true_and, List.nil_append] at same
  rcases LoopExpr.eq_of_applications (.inr rfl) (LoopExpr.eq_of_mem_texts apart bounds) areBounds
    areOtherBounds rfl isName.unmarked isOtherName.unmarked same with ⟨sameName, sameBounds, sameType⟩
  simp only [List.cons.injEq, true_and] at sameType
  rcases DeclaredType.eq_of_options sameType with ⟨rfl, sameRest⟩
  cases sameName
  cases sameBounds
  exact ⟨rfl, (List.cons.inj sameRest).2⟩

theorem eq_of_assigns (apart : Float.AreToldApart floats) {name nameToo : String}
    {value valueToo : LoopExpr} (legible : (assign name value).IsLegible library floats)
    (legibleToo : (assign nameToo valueToo).IsLegible library floats)
    (same : text heap level (.assign name value) ++ rest =
      text other level (.assign nameToo valueToo) ++ beyond) :
    assign name value = .assign nameToo valueToo ∧ rest = beyond := by
  rw [IsLegible] at legible legibleToo
  simp only [text_assign, List.append_assoc, List.append_cancel_left_eq, List.cons_append,
    List.nil_append] at same
  rcases eq_of_words legible.1.unmarked legibleToo.1.unmarked (isMarked_cons rfl _)
    (isMarked_cons rfl _) same with ⟨sameName, sameLater⟩
  simp only [List.cons.injEq, true_and] at sameLater
  rcases LoopExpr.eq_of_texts apart value valueToo _ _ legible.2 legibleToo.2 (isBehind_cons rfl _)
    (isBehind_cons rfl _) sameLater with ⟨rfl, sameRest⟩
  cases String.toList_inj.1 sameName
  exact ⟨rfl, (List.cons.inj sameRest).2⟩

theorem eq_of_elements (apart : Float.AreToldApart floats) {name nameToo : String}
    {indices others : List LoopExpr} {value valueToo : LoopExpr}
    (legible : (assignElement name indices value).IsLegible library floats)
    (legibleToo : (assignElement nameToo others valueToo).IsLegible library floats)
    (same : text heap level (.assignElement name indices value) ++ rest =
      text other level (.assignElement nameToo others valueToo) ++ beyond) :
    assignElement name indices value = .assignElement nameToo others valueToo ∧ rest = beyond := by
  rw [IsLegible] at legible legibleToo
  simp only [text_assignElement, List.append_assoc, List.append_cancel_left_eq, List.cons_append,
    List.nil_append] at same
  rcases LoopExpr.eq_of_applications (.inr rfl) (LoopExpr.eq_of_mem_texts apart indices) legible.2.1
    legibleToo.2.1 rfl legible.1.unmarked legibleToo.1.unmarked same with ⟨rfl, rfl, sameValue⟩
  simp only [List.cons.injEq, true_and] at sameValue
  rcases LoopExpr.eq_of_texts apart value valueToo _ _ legible.2.2 legibleToo.2.2
    (isBehind_cons rfl _) (isBehind_cons rfl _) sameValue with ⟨rfl, sameRest⟩
  exact ⟨rfl, (List.cons.inj sameRest).2⟩

theorem eq_of_overwrites (apart : Float.AreToldApart floats) {name nameToo : String}
    {start startToo : LoopExpr} {length lengthToo : Option LoopExpr} {value valueToo : LoopExpr}
    (legible : (overwrite name start length value).IsLegible library floats)
    (legibleToo : (overwrite nameToo startToo lengthToo valueToo).IsLegible library floats)
    (same : text heap level (.overwrite name start length value) ++ rest =
      text other level (.overwrite nameToo startToo lengthToo valueToo) ++ beyond) :
    overwrite name start length value = .overwrite nameToo startToo lengthToo valueToo ∧
      rest = beyond := by
  rw [IsLegible] at legible legibleToo
  simp only [text_overwrite, List.append_assoc, List.append_cancel_left_eq, List.cons_append,
    List.cons.injEq, true_and, List.nil_append] at same
  rcases eq_of_words legible.1.unmarked legibleToo.1.unmarked (isMarked_cons rfl _)
    (isMarked_cons rfl _) same with ⟨sameName, sameLater⟩
  rcases LoopExpr.eq_of_texts apart start startToo _ _ legible.2.1 legibleToo.2.1
    (isBehind_optional heap [' '] length _ rfl rfl)
    (isBehind_optional other [' '] lengthToo _ rfl rfl) (List.cons.inj sameLater).2 with
    ⟨rfl, sameLength⟩
  rcases eq_of_optional apart (by decide) rfl legible.2.2.1 legibleToo.2.2.1 sameLength with
    ⟨rfl, sameValue⟩
  simp only [List.cons.injEq, true_and] at sameValue
  rcases LoopExpr.eq_of_texts apart value valueToo _ _ legible.2.2.2 legibleToo.2.2.2
    (isBehind_cons rfl _) (isBehind_cons rfl _) sameValue with ⟨rfl, sameRest⟩
  cases String.toList_inj.1 sameName
  exact ⟨rfl, (List.cons.inj sameRest).2⟩

theorem eq_of_evaluations (apart : Float.AreToldApart floats) {expression found : LoopExpr}
    (legible : (evaluate expression).IsLegible library floats)
    (legibleToo : (evaluate found).IsLegible library floats)
    (same : text heap level (.evaluate expression) ++ rest =
      text other level (.evaluate found) ++ beyond) : expression = found ∧ rest = beyond := by
  rw [IsLegible] at legible legibleToo
  simp only [text_evaluate, List.append_assoc, List.append_cancel_left_eq, List.cons_append,
    List.nil_append] at same
  rcases LoopExpr.eq_of_texts apart expression found _ _ legible legibleToo (isBehind_cons rfl _)
    (isBehind_cons rfl _) same with ⟨rfl, sameRest⟩
  exact ⟨rfl, (List.cons.inj sameRest).2⟩

theorem eq_of_breaks {kind found : LoopKind}
    (same : text heap level (.break kind) ++ rest = text other level (.break found) ++ beyond) :
    kind = found ∧ rest = beyond := by
  simp only [text_break, List.append_assoc, List.append_cancel_left_eq, List.cons_append,
    List.cons.injEq, true_and, List.nil_append] at same
  cases kind <;> cases found
  · exact ⟨rfl, (List.cons.inj (List.append_cancel_left same)).2⟩
  · cases same
  · cases same
  · exact ⟨rfl, (List.cons.inj (List.append_cancel_left same)).2⟩

variable (follows : Follows level rest) (followsToo : Follows level beyond)

include follows followsToo

theorem eq_of_branches {arm found : LoopArm} {arms others : List LoopArm}
    {otherwise otherwiseToo : List LoopStatement}
    (readsArm : IsReadOffArm library floats heap other arm)
    (readsArms : AreReadOffArms library floats heap other arms)
    (reads : AreReadOff library floats heap other otherwise)
    (legible : (branch (arm :: arms) otherwise).IsLegible library floats)
    (legibleToo : (branch (found :: others) otherwiseToo).IsLegible library floats)
    (same : text heap level (.branch (arm :: arms) otherwise) ++ rest =
      text other level (.branch (found :: others) otherwiseToo) ++ beyond) :
    branch (arm :: arms) otherwise = .branch (found :: others) otherwiseToo ∧ rest = beyond := by
  rw [IsLegible, AreLegibleArms] at legible legibleToo
  simp only [text_branch, textOfArms_cons, List.append_assoc, List.append_cancel_left_eq] at same
  have later := follows.followsArms heap otherwise
  have laterToo := followsToo.followsArms other otherwiseToo
  rcases readsArm found level _ _ legible.2.1.1 legibleToo.2.1.1 (later.isOutside_arms heap arms)
    (laterToo.isOutside_arms other others) same with ⟨rfl, sameArms⟩
  rcases readsArms others level _ _ legible.2.1.2 legibleToo.2.1.2 later laterToo sameArms with
    ⟨rfl, sameElse⟩
  rcases eq_of_else reads legible.2.2 legibleToo.2.2 follows followsToo sameElse with ⟨rfl, sameRest⟩
  exact ⟨rfl, sameRest⟩

variable {body bodyToo : List LoopStatement} (reads : AreReadOff library floats heap other body)

include reads

theorem eq_of_ranges (apart : Float.AreToldApart floats) {index indexToo : String}
    {start finish startToo finishToo : LoopExpr} {step stepToo : Option LoopExpr}
    (legible : (forRange index start finish step body).IsLegible library floats)
    (legibleToo : (forRange indexToo startToo finishToo stepToo bodyToo).IsLegible library floats)
    (same : text heap level (.forRange index start finish step body) ++ rest =
      text other level (.forRange indexToo startToo finishToo stepToo bodyToo) ++ beyond) :
    forRange index start finish step body = .forRange indexToo startToo finishToo stepToo bodyToo ∧
      rest = beyond := by
  rw [IsLegible] at legible legibleToo
  simp only [text_forRange, List.append_assoc, List.append_cancel_left_eq, List.cons_append,
    List.cons.injEq, true_and] at same
  rcases eq_of_words legible.1.unmarked legibleToo.1.unmarked (isMarked_cons rfl _)
    (isMarked_cons rfl _) same with ⟨sameName, sameStart⟩
  simp only [List.cons.injEq, true_and] at sameStart
  rcases LoopExpr.eq_of_texts apart start startToo _ _ legible.2.1 legibleToo.2.1
    (isBehind_cons rfl _) (isBehind_cons rfl _) sameStart with ⟨rfl, sameFinish⟩
  simp only [List.cons.injEq, true_and, List.append_cancel_left_eq] at sameFinish
  rcases LoopExpr.eq_of_texts apart finish finishToo _ _ legible.2.2.1 legibleToo.2.2.1
    (isBehind_optional heap "step ".toList step _ rfl rfl)
    (isBehind_optional other "step ".toList stepToo _ rfl rfl) sameFinish with ⟨rfl, sameStep⟩
  rcases eq_of_optional apart (by decide) rfl legible.2.2.2.1 legibleToo.2.2.2.1 sameStep with
    ⟨rfl, sameBody⟩
  rcases reads bodyToo _ _ _ legible.2.2.2.2 legibleToo.2.2.2.2 follows.isOutside
    followsToo.isOutside (List.cons.inj sameBody).2 with ⟨rfl, sameRest⟩
  cases String.toList_inj.1 sameName
  exact ⟨rfl, sameRest⟩

theorem eq_of_iterations (apart : Float.AreToldApart floats) {index indexToo : String}
    {items itemsToo : LoopExpr} (legible : (forEach index items body).IsLegible library floats)
    (legibleToo : (forEach indexToo itemsToo bodyToo).IsLegible library floats)
    (same : text heap level (.forEach index items body) ++ rest =
      text other level (.forEach indexToo itemsToo bodyToo) ++ beyond) :
    forEach index items body = .forEach indexToo itemsToo bodyToo ∧ rest = beyond := by
  rw [IsLegible] at legible legibleToo
  simp only [text_forEach, List.append_assoc, List.append_cancel_left_eq, List.cons_append,
    List.cons.injEq, true_and] at same
  rcases eq_of_words legible.1.unmarked legibleToo.1.unmarked (isMarked_cons rfl _)
    (isMarked_cons rfl _) same with ⟨sameName, sameItems⟩
  simp only [List.cons.injEq, true_and, List.append_cancel_left_eq] at sameItems
  rcases LoopExpr.eq_of_texts apart items itemsToo _ _ legible.2.1 legibleToo.2.1
    (isBehind_cons rfl _) (isBehind_cons rfl _) sameItems with ⟨rfl, sameBody⟩
  simp only [List.cons.injEq, true_and] at sameBody
  rcases reads bodyToo _ _ _ legible.2.2 legibleToo.2.2 follows.isOutside followsToo.isOutside
    sameBody with ⟨rfl, sameRest⟩
  cases String.toList_inj.1 sameName
  exact ⟨rfl, sameRest⟩

theorem eq_of_conditionals (apart : Float.AreToldApart floats)
    {condition conditionToo : Option (LoopTest × LoopExpr)} {testFirst testFirstToo : Bool}
    (legible : (conditional condition testFirst body).IsLegible library floats)
    (legibleToo : (conditional conditionToo testFirstToo bodyToo).IsLegible library floats)
    (same : text heap level (.conditional condition testFirst body) ++ rest =
      text other level (.conditional conditionToo testFirstToo bodyToo) ++ beyond) :
    conditional condition testFirst body = .conditional conditionToo testFirstToo bodyToo ∧
      rest = beyond := by
  rw [IsLegible] at legible legibleToo
  simp only [text_conditional, List.append_assoc, List.append_cancel_left_eq, List.cons_append,
    List.cons.injEq, true_and] at same
  rcases eq_of_tests apart legible.1 legibleToo.1 same with ⟨rfl, sameTested⟩
  rw [List.append_cancel_left_eq] at sameTested
  rcases eq_of_words (isUnmarked_place testFirst) (isUnmarked_place testFirstToo)
    (isMarked_cons rfl _) (isMarked_cons rfl _) sameTested with ⟨samePlace, sameBody⟩
  simp only [List.cons.injEq, true_and] at sameBody
  rcases reads bodyToo _ _ _ legible.2 legibleToo.2 follows.isOutside followsToo.isOutside sameBody
    with ⟨rfl, sameRest⟩
  cases place_injective samePlace
  exact ⟨rfl, sameRest⟩

end

mutual

theorem eq_of_texts (apart : Float.AreToldApart floats) :
    ∀ left : LoopStatement, left.IsReadOff library floats heap other
  | .dim declarations => by
      intro right level rest beyond legible legibleToo follows followsToo same
      have sameKind := kind_eq_of_texts legible legibleToo same
      cases right with
      | dim others =>
          rcases eq_of_dims apart legible legibleToo same with ⟨rfl, sameRest⟩
          exact ⟨rfl, sameRest⟩
      | evaluate expression => cases expression <;> cases sameKind
      | _ => cases sameKind
  | .assign name value => by
      intro right level rest beyond legible legibleToo follows followsToo same
      have sameKind := kind_eq_of_texts legible legibleToo same
      cases right with
      | assign nameToo valueToo => exact eq_of_assigns apart legible legibleToo same
      | evaluate expression => cases expression <;> cases sameKind
      | _ => cases sameKind
  | .assignElement name indices value => by
      intro right level rest beyond legible legibleToo follows followsToo same
      have sameKind := kind_eq_of_texts legible legibleToo same
      cases right with
      | assignElement nameToo others valueToo => exact eq_of_elements apart legible legibleToo same
      | evaluate expression =>
          rw [IsLegible] at legible
          rw [IsLegible] at legibleToo
          cases expression with
          | index nameToo others =>
              exact absurd same (ne_index_of_element apart legible.1 legible.2.1 legibleToo)
          | _ => cases sameKind
      | _ => cases sameKind
  | .overwrite name start length value => by
      intro right level rest beyond legible legibleToo follows followsToo same
      have sameKind := kind_eq_of_texts legible legibleToo same
      cases right with
      | overwrite nameToo startToo lengthToo valueToo =>
          exact eq_of_overwrites apart legible legibleToo same
      | evaluate expression => cases expression <;> cases sameKind
      | _ => cases sameKind
  | .evaluate expression => by
      intro right level rest beyond legible legibleToo follows followsToo same
      have sameKind := kind_eq_of_texts legible legibleToo same
      cases right with
      | evaluate found =>
          rcases eq_of_evaluations apart legible legibleToo same with ⟨rfl, sameRest⟩
          exact ⟨rfl, sameRest⟩
      | assignElement name indices value =>
          rw [IsLegible] at legible
          rw [IsLegible] at legibleToo
          cases expression with
          | index nameToo others =>
              exact absurd same.symm
                (ne_index_of_element apart legibleToo.1 legibleToo.2.1 legible)
          | _ => cases sameKind
      | _ => cases expression <;> cases sameKind
  | .branch [] otherwise => by
      intro right level rest beyond legible legibleToo follows followsToo same
      rw [IsLegible] at legible
      exact absurd rfl legible.1
  | .branch (arm :: arms) otherwise => by
      intro right level rest beyond legible legibleToo follows followsToo same
      have sameKind := kind_eq_of_texts legible legibleToo same
      cases right with
      | branch others otherwiseToo =>
          cases others with
          | nil =>
              rw [IsLegible] at legibleToo
              exact absurd rfl legibleToo.1
          | cons found others =>
              exact eq_of_branches follows followsToo (eq_of_arm apart arm) (eq_of_arms apart arms)
                (eq_of_blocks apart otherwise) legible legibleToo same
      | evaluate expression => cases expression <;> cases sameKind
      | _ => cases sameKind
  | .forRange index start finish step body => by
      intro right level rest beyond legible legibleToo follows followsToo same
      have sameKind := kind_eq_of_texts legible legibleToo same
      cases right with
      | forRange indexToo startToo finishToo stepToo bodyToo =>
          exact eq_of_ranges follows followsToo (eq_of_blocks apart body) apart legible legibleToo
            same
      | forEach indexToo items bodyToo =>
          rw [IsLegible] at legible
          simp only [text_forRange, text_forEach, List.append_assoc, List.append_cancel_left_eq,
            List.cons_append, List.cons.injEq, true_and] at same
          exact absurd same (ne_each legible.1)
      | evaluate expression => cases expression <;> cases sameKind
      | _ => cases sameKind
  | .forEach index items body => by
      intro right level rest beyond legible legibleToo follows followsToo same
      have sameKind := kind_eq_of_texts legible legibleToo same
      cases right with
      | forEach indexToo itemsToo bodyToo =>
          exact eq_of_iterations follows followsToo (eq_of_blocks apart body) apart legible legibleToo
            same
      | forRange indexToo start finish step bodyToo =>
          rw [IsLegible] at legibleToo
          simp only [text_forRange, text_forEach, List.append_assoc, List.append_cancel_left_eq,
            List.cons_append, List.cons.injEq, true_and] at same
          exact absurd same.symm (ne_each legibleToo.1)
      | evaluate expression => cases expression <;> cases sameKind
      | _ => cases sameKind
  | .conditional condition testFirst body => by
      intro right level rest beyond legible legibleToo follows followsToo same
      have sameKind := kind_eq_of_texts legible legibleToo same
      cases right with
      | conditional conditionToo testFirstToo bodyToo =>
          exact eq_of_conditionals follows followsToo (eq_of_blocks apart body) apart legible
            legibleToo same
      | evaluate expression => cases expression <;> cases sameKind
      | _ => cases sameKind
  | .break kind => by
      intro right level rest beyond legible legibleToo follows followsToo same
      have sameKind := kind_eq_of_texts legible legibleToo same
      cases right with
      | «break» found =>
          rcases eq_of_breaks same with ⟨rfl, sameRest⟩
          exact ⟨rfl, sameRest⟩
      | evaluate expression => cases expression <;> cases sameKind
      | _ => cases sameKind
  | .return => by
      intro right level rest beyond legible legibleToo follows followsToo same
      have sameKind := kind_eq_of_texts legible legibleToo same
      cases right with
      | «return» =>
          simp only [text_return, List.append_assoc, List.append_cancel_left_eq, List.cons_append,
            List.cons.injEq, true_and, List.nil_append] at same
          exact ⟨rfl, same⟩
      | evaluate expression => cases expression <;> cases sameKind
      | _ => cases sameKind

theorem eq_of_blocks (apart : Float.AreToldApart floats) :
    ∀ left : List LoopStatement, AreReadOff library floats heap other left
  | [] => by
      intro right level rest beyond legible legibleToo isOutside isOutsideToo same
      cases right with
      | nil => exact ⟨rfl, same⟩
      | cons found others => exact absurd same (isOutside.ne_block legibleToo)
  | statement :: statements => by
      intro right level rest beyond legible legibleToo isOutside isOutsideToo same
      cases right with
      | nil => exact absurd same.symm (isOutsideToo.ne_block legible)
      | cons found others =>
          rw [AreLegible] at legible legibleToo
          rw [textOfBlock_cons, textOfBlock_cons, List.append_assoc, List.append_assoc] at same
          rcases eq_of_texts apart statement found _ _ _ legible.1 legibleToo.1
            (follows_block legible.2 isOutside) (follows_block legibleToo.2 isOutsideToo) same with
            ⟨rfl, sameLater⟩
          rcases eq_of_blocks apart statements others _ _ _ legible.2 legibleToo.2 isOutside
            isOutsideToo sameLater with ⟨rfl, sameRest⟩
          exact ⟨rfl, sameRest⟩

theorem eq_of_arms (apart : Float.AreToldApart floats) :
    ∀ left : List LoopArm, AreReadOffArms library floats heap other left
  | [] => by
      intro right level rest beyond legible legibleToo follows followsToo same
      cases right with
      | nil => exact ⟨rfl, same⟩
      | cons found others => exact absurd same (follows.ne_arm found others)
  | arm :: arms => by
      intro right level rest beyond legible legibleToo follows followsToo same
      cases right with
      | nil => exact absurd same.symm (followsToo.ne_arm arm arms)
      | cons found others =>
          rw [AreLegibleArms] at legible legibleToo
          simp only [textOfArms_cons, List.append_assoc, List.append_cancel_left_eq] at same
          rcases eq_of_arm apart arm found _ _ _ legible.1 legibleToo.1
            (follows.isOutside_arms heap arms) (followsToo.isOutside_arms other others) same with
            ⟨rfl, sameLater⟩
          rcases eq_of_arms apart arms others _ _ _ legible.2 legibleToo.2 follows followsToo
            sameLater with ⟨rfl, sameRest⟩
          exact ⟨rfl, sameRest⟩

theorem eq_of_arm (apart : Float.AreToldApart floats) :
    ∀ left : LoopArm, IsReadOffArm library floats heap other left
  | .mk condition body => by
      rintro ⟨conditionToo, bodyToo⟩ level rest beyond legible legibleToo isOutside isOutsideToo same
      rw [IsLegibleArm] at legible legibleToo
      simp only [textOfArm, List.append_assoc, List.cons_append] at same
      rcases LoopExpr.eq_of_texts apart condition conditionToo _ _ legible.1 legibleToo.1
        (isBehind_cons rfl _) (isBehind_cons rfl _) same with ⟨rfl, sameBody⟩
      simp only [List.cons.injEq, true_and] at sameBody
      rcases eq_of_blocks apart body bodyToo _ _ _ legible.2 legibleToo.2 isOutside isOutsideToo
        sameBody with ⟨rfl, sameRest⟩
      exact ⟨rfl, sameRest⟩

end

end LoopStatement

end MacroSandbox
