import MacroSandbox.Proofs.StatementTexts

/-! The texts of loop programs, from which the programs can be read off, their variables up to the
places of their initial values.

The sections of a text start with different words, and only the lines of the prologue, of blocks and of
functions may be repeated. -/

namespace MacroSandbox

open Text

/-! ## Texts in sequence -/

namespace Text

section

variable {α : Type} {left right : α → List Char} {Behind : List Char → Prop}

/-- Texts in sequence are read off one after the other if each of them can be read off, and what follows
the sequence looks like none of them. -/
theorem eq_of_sequences : ∀ {items others : List α} {rest beyond : List Char},
    (∀ item ∈ items, ∀ other ∈ others, ∀ rest beyond, Behind rest → Behind beyond →
      left item ++ rest = right other ++ beyond → item = other ∧ rest = beyond) →
    (∀ item ∈ items, ∀ rest, Behind (left item ++ rest) ∧ left item ++ rest ≠ beyond) →
    (∀ other ∈ others, ∀ beyond, Behind (right other ++ beyond) ∧ right other ++ beyond ≠ rest) →
    Behind rest → Behind beyond →
    items.flatMap left ++ rest = others.flatMap right ++ beyond → items = others ∧ rest = beyond := by
  intro items
  have follows {read : α → List Char} {texts : List α} {rest : List Char}
      (each : ∀ item ∈ texts, ∀ rest, Behind (read item ++ rest)) (behind : Behind rest) :
      Behind (texts.flatMap read ++ rest) := by
    cases texts with
    | nil => exact behind
    | cons item texts =>
        rw [List.flatMap_cons, List.append_assoc]
        exact each item List.mem_cons_self _
  induction items with
  | nil =>
      intro others rest beyond reads starts startsToo behind behindToo same
      cases others with
      | nil => exact ⟨rfl, same⟩
      | cons other others =>
          rw [List.flatMap_cons, List.append_assoc] at same
          exact absurd same.symm (startsToo other List.mem_cons_self _).2
  | cons item items induction =>
      intro others rest beyond reads starts startsToo behind behindToo same
      cases others with
      | nil =>
          rw [List.flatMap_cons, List.append_assoc] at same
          exact absurd same (starts item List.mem_cons_self _).2
      | cons other others =>
          rw [List.flatMap_cons, List.flatMap_cons, List.append_assoc, List.append_assoc] at same
          have later := fun found member => starts found (List.mem_cons_of_mem item member)
          have laterToo := fun found member => startsToo found (List.mem_cons_of_mem other member)
          rcases reads item List.mem_cons_self other List.mem_cons_self _ _
            (follows (fun found member rest => (later found member rest).1) behind)
            (follows (fun found member rest => (laterToo found member rest).1) behindToo) same with
            ⟨rfl, sameLater⟩
          rcases induction (fun found member other memberToo => reads found
              (List.mem_cons_of_mem _ member) other (List.mem_cons_of_mem _ memberToo))
            later laterToo behind behindToo sameLater with ⟨rfl, sameRest⟩
          exact ⟨rfl, sameRest⟩

end

theorem eq_of_names {left right : List String}
    (unmarked : ∀ name ∈ left, name ≠ "" ∧ IsUnmarked name.toList)
    (unmarkedToo : ∀ name ∈ right, name ≠ "" ∧ IsUnmarked name.toList) {rest beyond : List Char}
    (same : row (left.map String.toList) ++ '\n' :: rest =
      row (right.map String.toList) ++ '\n' :: beyond) : left = right ∧ rest = beyond := by
  have starts {names : List String} (unmarked : ∀ name ∈ names, name ≠ "" ∧ IsUnmarked name.toList) :
      ∀ name ∈ names, ∃ first later, name.toList = first :: later ∧ first ≠ '\n' := by
    intro name member
    have nonempty : name.toList ≠ [] := fun empty =>
      (unmarked name member).1 (String.toList_inj.1 empty)
    rcases List.exists_cons_of_ne_nil nonempty with ⟨first, later, isName⟩
    refine ⟨first, later, isName, ?_⟩
    rintro rfl
    have noMark := (unmarked name member).2 '\n' (isName ▸ List.mem_cons_self)
    cases noMark
  exact eq_of_rows (isMarked_cons rfl) (isMarked_cons rfl) (by decide)
    (fun name member other memberToo rest beyond marked markedToo same => by
      rcases eq_of_words (unmarked name member).2 (unmarkedToo other memberToo).2 marked markedToo same
        with ⟨sameName, sameRest⟩
      exact ⟨String.toList_inj.1 sameName, sameRest⟩)
    (starts unmarked) (starts unmarkedToo) same

end Text

/-! ## Functions -/

/-- A function that can be read off its text: its parameters are words, and only a function with a result
has a type for it. -/
structure LoopFunction.IsLegible (library : Library) (floats : Float → Prop)
    (function : LoopFunction) : Prop where
  name : IsUnmarked function.name.toList
  parameters : ∀ parameter ∈ function.parameters,
    parameter.1 ≠ "" ∧ IsUnmarked parameter.1.toList
  returns : function.returnsValue = false → function.returnType = none
  body : LoopStatement.AreLegible library floats function.body

namespace LoopFunction

def textOfParameter (parameter : String × Option DeclaredType) : List Char :=
  parameter.1.toList ++ ':' :: ' ' :: (DeclaredType.renderOption parameter.2).toList

def textOfResult (function : LoopFunction) : List Char :=
  if function.returnsValue then
    ' ' :: '-' :: '>' :: ' ' :: (DeclaredType.renderOption function.returnType).toList
  else []

def text (heap : Heap) (function : LoopFunction) : List Char :=
  "fn".toList ++ ' ' :: (function.name.toList ++ '(' ::
    (row (function.parameters.map textOfParameter) ++ ')' :: (textOfResult function ++
      ':' :: '\n' :: LoopStatement.textOfBlock heap 1 function.body)))

theorem toList_render (heap : Heap) (function : LoopFunction) :
    (function.render heap).toList = text heap function := by
  have returns : (if function.returnsValue then
      " -> " ++ DeclaredType.renderOption function.returnType else "").toList =
        textOfResult function := by
    rw [textOfResult]
    cases function.returnsValue with
    | false => rfl
    | true => simp
  have parameters {written : String × Option DeclaredType → String}
      (same : ∀ parameter, (written parameter).toList = textOfParameter parameter) :
      (function.parameters.map written).map String.toList =
        function.parameters.map textOfParameter := by
    rw [List.map_map]
    exact List.map_congr_left fun parameter _ => same parameter
  rw [render]
  simp only [String.toList_append, toList_intercalate, returns, List.append_assoc]
  rw [parameters fun parameter => by simp [textOfParameter]]
  rfl

variable {library : Library} {floats : Float → Prop} {heap other : Heap}

theorem eq_of_parameters {left right : String × Option DeclaredType} (unmarked : IsUnmarked left.1.toList)
    (unmarkedToo : IsUnmarked right.1.toList) {rest beyond : List Char}
    (same : textOfParameter left ++ rest = textOfParameter right ++ beyond) :
    left = right ∧ rest = beyond := by
  simp only [textOfParameter, List.append_assoc, List.cons_append] at same
  rcases eq_of_words unmarked unmarkedToo (isMarked_cons rfl _) (isMarked_cons rfl _) same with
    ⟨sameName, sameLater⟩
  simp only [List.cons.injEq, true_and] at sameLater
  rcases DeclaredType.eq_of_options sameLater with ⟨sameType, sameRest⟩
  exact ⟨Prod.ext (String.toList_inj.1 sameName) sameType, sameRest⟩

theorem eq_of_results {left right : LoopFunction}
    (returns : left.returnsValue = false → left.returnType = none)
    (returnsToo : right.returnsValue = false → right.returnType = none) {rest beyond : List Char}
    (same : textOfResult left ++ ':' :: rest = textOfResult right ++ ':' :: beyond) :
    left.returnsValue = right.returnsValue ∧ left.returnType = right.returnType ∧ rest = beyond := by
  rw [textOfResult, textOfResult] at same
  cases isFunction : left.returnsValue with
  | false =>
      rw [isFunction] at same
      cases isFunctionToo : right.returnsValue with
      | false =>
          rw [isFunctionToo] at same
          exact ⟨rfl, (returns isFunction).trans (returnsToo isFunctionToo).symm,
            (List.cons.inj same).2⟩
      | true =>
          rw [isFunctionToo] at same
          cases (List.cons.inj same).1
  | true =>
      rw [isFunction] at same
      cases isFunctionToo : right.returnsValue with
      | false =>
          rw [isFunctionToo] at same
          cases (List.cons.inj same).1
      | true =>
          rw [isFunctionToo] at same
          simp only [if_true, List.cons_append, List.cons.injEq, true_and] at same
          rcases DeclaredType.eq_of_options same with ⟨sameType, sameRest⟩
          exact ⟨rfl, sameType, (List.cons.inj sameRest).2⟩

theorem eq_of_texts (apart : Float.AreToldApart floats) {left right : LoopFunction}
    (legible : left.IsLegible library floats) (legibleToo : right.IsLegible library floats)
    {rest beyond : List Char} (isOutside : LoopStatement.IsOutside 1 rest)
    (isOutsideToo : LoopStatement.IsOutside 1 beyond)
    (same : left.text heap ++ rest = right.text other ++ beyond) : left = right ∧ rest = beyond := by
  simp only [text, List.append_assoc, List.cons_append, List.append_cancel_left_eq, List.cons.injEq,
    true_and] at same
  rcases eq_of_words legible.name legibleToo.name (isMarked_cons rfl _) (isMarked_cons rfl _) same with
    ⟨sameName, sameParameters⟩
  have starts {function : LoopFunction} (legible : function.IsLegible library floats) :
      ∀ parameter ∈ function.parameters,
        ∃ first later, textOfParameter parameter = first :: later ∧ first ≠ ')' := by
    intro parameter member
    have nonempty : parameter.1.toList ≠ [] := fun empty =>
      (legible.parameters parameter member).1 (String.toList_inj.1 empty)
    rcases List.exists_cons_of_ne_nil nonempty with ⟨first, later, isName⟩
    refine ⟨first, _, by rw [textOfParameter, isName]; rfl, ?_⟩
    rintro rfl
    have noMark := (legible.parameters parameter member).2 ')' (isName ▸ List.mem_cons_self)
    cases noMark
  rcases @eq_of_rows _ _ _ _ (fun _ => True) _ _ (fun _ => trivial) (fun _ => trivial) (by decide) _ _
    (fun parameter member found memberToo _ _ _ _ => eq_of_parameters
      (legible.parameters parameter member).2 (legibleToo.parameters found memberToo).2)
    (starts legible) (starts legibleToo) (List.cons.inj sameParameters).2 with
    ⟨sameParameters, sameResult⟩
  rcases eq_of_results legible.returns legibleToo.returns sameResult with
    ⟨sameReturns, sameType, sameBody⟩
  rcases LoopStatement.eq_of_blocks apart _ _ _ _ _ legible.body legibleToo.body isOutside
    isOutsideToo (List.cons.inj sameBody).2 with ⟨sameBlock, sameRest⟩
  cases left
  cases right
  cases String.toList_inj.1 sameName
  cases sameParameters
  cases sameReturns
  cases sameType
  cases sameBlock
  exact ⟨rfl, sameRest⟩

end LoopFunction

/-! ## Programs -/

/-- A program that can be read off its text: its names are words, its variables hold plain data at first,
its functions go by their names, and its code can be read off. -/
structure LoopProgram.IsLegible (library : Library) (floats : Float → Prop) (heap : Heap)
    (program : LoopProgram) : Prop where
  initialValues : ∀ entry ∈ program.prologue.toList,
    IsUnmarked entry.1.toList ∧ (heap.contents entry.2).IsPlain floats
  types : ∀ entry ∈ program.types.toList, IsUnmarked entry.1.toList
  shared : ∀ name ∈ program.shared.toList, name ≠ "" ∧ IsUnmarked name.toList
  functions : ∀ entry ∈ program.functions.toList,
    entry.2.name = entry.1 ∧ entry.2.IsLegible library floats
  body : program.body.IsLegible library floats
  captures : ∀ name ∈ program.captures.toList, name ≠ "" ∧ IsUnmarked name.toList

namespace LoopProgram

def prologueHead : List Char :=
  ['p', 'r', 'o', 'l', 'o', 'g', 'u', 'e', ':', '\n']

def sharedHead : List Char :=
  ['s', 'h', 'a', 'r', 'e', 'd', ':', ' ']

def mainHead : List Char :=
  ['m', 'a', 'i', 'n', ':', '\n']

def captureHead : List Char :=
  ['c', 'a', 'p', 't', 'u', 'r', 'e', ':', ' ']

def initialValues (heap : Heap) (program : LoopProgram) : List (String × Datum) :=
  program.prologue.toList.map fun entry => (entry.1, heap.contents entry.2)

def textOfVariable (entry : String × Datum) : List Char :=
  ' ' :: ' ' :: (entry.1.toList ++ ' ' :: '=' :: ' ' :: (entry.2.written ++ ['\n']))

def textOfType (entry : String × DeclaredType) : List Char :=
  ' ' :: ' ' :: (entry.1.toList ++ ':' :: ' ' :: (entry.2.name.toList ++ ['\n']))

def text (heap : Heap) (program : LoopProgram) : List Char :=
  prologueHead ++ ((program.initialValues heap).flatMap textOfVariable ++
    (program.types.toList.flatMap textOfType ++ (sharedHead ++
      (row (program.shared.toList.map String.toList) ++ '\n' ::
        ((program.functions.toList.map Prod.snd).flatMap (LoopFunction.text heap) ++
          (mainHead ++ (program.body.text heap 1 ++ (captureHead ++
            (row (program.captures.toList.map String.toList) ++ ['\n'])))))))))

theorem toList_join_map {α : Type} {written : α → String} {text : α → List Char}
    (same : ∀ item, (written item).toList = text item) (items : List α) :
    (String.join (items.map written)).toList = items.flatMap text := by
  induction items with
  | nil => rfl
  | cons item items induction =>
      rw [List.map_cons, String.join_cons, String.toList_append, induction, same, List.flatMap_cons]

theorem toList_render (heap : Heap) (program : LoopProgram) :
    (program.render heap).toList ++ ['\n'] = text heap program := by
  have isPrologueHead : "prologue:\n".toList = prologueHead := by decide
  have isSharedHead : "shared: ".toList = sharedHead := by decide
  have isMainHead : "main:\n".toList = mainHead := by decide
  have isCaptureHead : "capture: ".toList = captureHead := by decide
  have lineEnd : "\n".toList = ['\n'] := rfl
  unfold render
  simp only [text, initialValues, String.toList_append, toList_intercalate, List.flatMap_map,
    List.append_assoc, isPrologueHead, isSharedHead, isMainHead, isCaptureHead, lineEnd,
    List.cons_append, List.nil_append, LoopStatement.text]
  rw [@toList_join_map (String × Value) _ fun entry =>
      textOfVariable (entry.1, heap.contents entry.2),
    @toList_join_map (String × DeclaredType) _ textOfType,
    @toList_join_map (String × LoopFunction) _ fun entry => entry.2.text heap]
  · exact fun entry => entry.2.toList_render heap
  · exact fun entry => by simp [textOfType]
  · exact fun entry => by simp [textOfVariable, heap.toList_constant entry.2]

/-- Two programs with the same code and the same data. The data are in places of their own. -/
structure ReadsAlike (heap other : Heap) (left right : LoopProgram) : Prop where
  initialValues : left.initialValues heap = right.initialValues other
  types : left.types.toList = right.types.toList
  shared : left.shared.toList = right.shared.toList
  functions : left.functions.toList = right.functions.toList
  body : left.body = right.body
  captures : left.captures.toList = right.captures.toList

variable {library : Library} {floats : Float → Prop} {heap other : Heap} {left right : LoopProgram}

theorem IsLegible.ne_types (legible : left.IsLegible library floats heap) {entry : String × Datum}
    (unmarked : IsUnmarked entry.1.toList) (rest beyond : List Char) :
    textOfVariable entry ++ rest ≠
      left.types.toList.flatMap textOfType ++ (sharedHead ++ beyond) := by
  intro same
  have unmarkedTypes := legible.types
  cases types : left.types.toList with
  | nil =>
      rw [types] at same
      cases (List.cons.inj same).1
  | cons found others =>
      rw [types] at same unmarkedTypes
      simp only [textOfVariable, textOfType, List.flatMap_cons, List.cons_append, List.append_assoc,
        List.cons.injEq, true_and] at same
      rcases eq_of_words unmarked (unmarkedTypes found List.mem_cons_self) (isMarked_cons rfl _)
        (isMarked_cons rfl _) same with ⟨_, sameMark⟩
      cases (List.cons.inj sameMark).1

theorem eq_of_variables (apart : Float.AreToldApart floats)
    (legible : left.IsLegible library floats heap) (legibleToo : right.IsLegible library floats other)
    {rest beyond : List Char}
    (same : (left.initialValues heap).flatMap textOfVariable ++
        (left.types.toList.flatMap textOfType ++ (sharedHead ++ rest)) =
      (right.initialValues other).flatMap textOfVariable ++
        (right.types.toList.flatMap textOfType ++ (sharedHead ++ beyond))) :
    left.initialValues heap = right.initialValues other ∧
      left.types.toList.flatMap textOfType ++ (sharedHead ++ rest) =
        right.types.toList.flatMap textOfType ++ (sharedHead ++ beyond) := by
  have plain {heap : Heap} {program : LoopProgram} (legible : program.IsLegible library floats heap) :
      ∀ entry ∈ program.initialValues heap,
        IsUnmarked entry.1.toList ∧ entry.2.IsPlain floats := by
    intro entry member
    rcases List.mem_map.1 member with ⟨bound, isBound, rfl⟩
    exact legible.initialValues bound isBound
  exact @eq_of_sequences _ _ _ (fun _ => True) _ _ _ _
    (fun entry member found memberToo rest beyond _ _ same => by
      simp only [textOfVariable, List.cons_append, List.append_assoc, List.cons.injEq, true_and,
        List.nil_append] at same
      rcases eq_of_words (plain legible entry member).1 (plain legibleToo found memberToo).1
        (isMarked_cons rfl _) (isMarked_cons rfl _) same with ⟨sameName, sameLater⟩
      simp only [List.cons.injEq, true_and] at sameLater
      rcases Datum.eq_of_written apart entry.2 found.2 _ _ (plain legible entry member).2
        (plain legibleToo found memberToo).2 (isMarked_cons rfl _) (isMarked_cons rfl _) sameLater with
        ⟨sameDatum, sameRest⟩
      exact ⟨Prod.ext (String.toList_inj.1 sameName) sameDatum, (List.cons.inj sameRest).2⟩)
    (fun entry member rest => ⟨trivial,
      legibleToo.ne_types (plain legible entry member).1 rest _⟩)
    (fun entry member rest => ⟨trivial,
      legible.ne_types (plain legibleToo entry member).1 rest _⟩)
    trivial trivial same

theorem eq_of_types (legible : left.IsLegible library floats heap)
    (legibleToo : right.IsLegible library floats other) {rest beyond : List Char}
    (same : left.types.toList.flatMap textOfType ++ (sharedHead ++ rest) =
      right.types.toList.flatMap textOfType ++ (sharedHead ++ beyond)) :
    left.types.toList = right.types.toList ∧ rest = beyond := by
  have noLine (entry : String × DeclaredType) (later rest : List Char) :
      textOfType entry ++ later ≠ sharedHead ++ rest := fun same => by
    cases (List.cons.inj same).1
  rcases @eq_of_sequences _ _ _ (fun _ => True) _ _ _ _
    (fun entry member found memberToo rest beyond _ _ same => by
      simp only [textOfType, List.cons_append, List.append_assoc, List.cons.injEq, true_and,
        List.nil_append] at same
      rcases eq_of_words (legible.types entry member) (legibleToo.types found memberToo)
        (isMarked_cons rfl _) (isMarked_cons rfl _) same with ⟨sameName, sameLater⟩
      simp only [List.cons.injEq, true_and] at sameLater
      rcases eq_of_words entry.2.isUnmarked_name found.2.isUnmarked_name (isMarked_cons rfl _)
        (isMarked_cons rfl _) sameLater with ⟨sameType, sameRest⟩
      exact ⟨Prod.ext (String.toList_inj.1 sameName) (DeclaredType.name_injective sameType),
        (List.cons.inj sameRest).2⟩)
    (fun entry _ rest => ⟨trivial, noLine entry rest _⟩)
    (fun entry _ rest => ⟨trivial, noLine entry rest _⟩)
    trivial trivial same with ⟨sameTypes, sameRest⟩
  exact ⟨sameTypes, List.append_cancel_left sameRest⟩

theorem eq_of_functions (apart : Float.AreToldApart floats)
    (legible : left.IsLegible library floats heap) (legibleToo : right.IsLegible library floats other)
    {rest beyond : List Char}
    (same : (left.functions.toList.map Prod.snd).flatMap (LoopFunction.text heap) ++
        (mainHead ++ rest) =
      (right.functions.toList.map Prod.snd).flatMap (LoopFunction.text other) ++
        (mainHead ++ beyond)) :
    left.functions.toList = right.functions.toList ∧ rest = beyond := by
  have isOutside {text : List Char} (noBlank : text.head? ≠ some ' ') :
      LoopStatement.IsOutside 1 text :=
    @LoopStatement.isOutside_of_line 0 text noBlank
  have each {heap : Heap} {program : LoopProgram} (legible : program.IsLegible library floats heap) :
      ∀ function ∈ program.functions.toList.map Prod.snd, function.IsLegible library floats := by
    intro function member
    rcases List.mem_map.1 member with ⟨entry, isEntry, rfl⟩
    exact (legible.functions entry isEntry).2
  have byName {heap : Heap} {program : LoopProgram} (legible : program.IsLegible library floats heap) :
      (program.functions.toList.map Prod.snd).map (fun function => (function.name, function)) =
        program.functions.toList := by
    rw [List.map_map]
    have same : ∀ entry ∈ program.functions.toList,
        ((fun function => (function.name, function)) ∘ Prod.snd) entry = id entry :=
      fun entry member => Prod.ext (legible.functions entry member).1 rfl
    rw [List.map_congr_left same, List.map_id]
  have starts (heap : Heap) (function : LoopFunction) (later rest : List Char) :
      LoopStatement.IsOutside 1 (LoopFunction.text heap function ++ later) ∧
        LoopFunction.text heap function ++ later ≠ mainHead ++ rest := by
    refine ⟨isOutside (by exact nofun), fun same => ?_⟩
    cases (List.cons.inj same).1
  rcases eq_of_sequences (fun function member found memberToo rest beyond => LoopFunction.eq_of_texts
      apart (each legible function member) (each legibleToo found memberToo))
    (fun function _ later => starts heap function later _)
    (fun function _ later => starts other function later _)
    (isOutside (by exact nofun)) (isOutside (by exact nofun)) same with ⟨sameFunctions, sameRest⟩
  rw [← byName legible, ← byName legibleToo, sameFunctions]
  exact ⟨rfl, List.append_cancel_left sameRest⟩

/-- Legible programs with the same text have the same code and the same data. -/
theorem readsAlike_of_render_eq (apart : Float.AreToldApart floats)
    (legible : left.IsLegible library floats heap) (legibleToo : right.IsLegible library floats other)
    (same : left.render heap = right.render other) : ReadsAlike heap other left right := by
  have sameText : left.text heap = right.text other := by
    have ended := congrArg (fun text : String => text.toList ++ ['\n']) same
    exact (left.toList_render heap).symm.trans (ended.trans (right.toList_render other))
  simp only [text, List.append_cancel_left_eq] at sameText
  rcases eq_of_variables apart legible legibleToo sameText with ⟨initialValues, sameTypes⟩
  rcases eq_of_types legible legibleToo sameTypes with ⟨types, sameShared⟩
  rcases eq_of_names legible.shared legibleToo.shared sameShared with ⟨shared, sameFunctions⟩
  rcases eq_of_functions apart legible legibleToo sameFunctions with ⟨functions, sameBody⟩
  have captureFollows (names : List Char) :
      LoopStatement.Follows 1 (captureHead ++ names) :=
    LoopStatement.IsOutside.follows
      (@LoopStatement.isOutside_of_line 0 (captureHead ++ names) (by exact nofun))
  rcases LoopStatement.eq_of_texts apart left.body right.body _ _ _ legible.body legibleToo.body
    (captureFollows _) (captureFollows _) sameBody with ⟨body, sameCaptures⟩
  rcases eq_of_names legible.captures legibleToo.captures (List.append_cancel_left sameCaptures) with
    ⟨captures, _⟩
  exact { initialValues, types, shared, functions, body, captures }

end LoopProgram

end MacroSandbox
