import MacroSandbox.Loop.Compiler
import MacroSandbox.Proofs.LoopSimulation

/-! What becomes of a state when the result of a program is written back to it, where the result holds
plain values and lists without references: variables are assigned to, and the items of a list are
written to the list that its name means. -/

namespace MacroSandbox

namespace State

variable {environment : Environment} {copies : Heap} {values : String → Option Value}
  {state before after : State} {name : String} {names rest : List String}

theorem scope_mergeTypes (state : State) (types : List (String × DeclaredType)) :
    (state.mergeTypes types).scope environment = state.scope environment ∧
      (state.mergeTypes types).heap = state.heap ∧ (state.mergeTypes types).run = state.run := by
  induction types generalizing state with
  | nil => exact ⟨rfl, rfl, rfl⟩
  | cons entry rest induction =>
      rw [mergeTypes]
      split
      · exact induction _
      · exact induction _

/-! ## One value -/

theorem mergeValue_eq_set {value : Value} (scalar : value.isReference = false) (name : String) :
    state.mergeValue environment name value = state.set environment name value := by
  unfold mergeValue
  split
  · cases scalar
  · cases scalar
  · rfl

theorem mergeValue_list {place copy : Nat}
    (bound : (state.scope environment).get? name = some (.list place)) :
    state.mergeValue environment name (.list copy) =
      { state with heap := state.heap.modifyList place fun _ => state.heap.list copy } := by
  unfold mergeValue
  rw [bound]

/-! ## Several values -/

def updatesOf (copies : Heap) (values : String → Option Value) (names : List String) :
    List (String × Datum) :=
  names.filterMap fun name => (values name).map fun value => (name, copies.contents value)

/-- A final value can be written back: it is no reference, or a list without references for a name
that means a list. -/
inductive Returns (environment : Environment) (copies : Heap) (values : String → Option Value)
    (state : State) (name : String) : Prop
  | scalar {value : Value} (final : values name = some value) (isScalar : value.isReference = false)
  | items {place copy : Nat} (final : values name = some (.list copy))
      (bound : (state.scope environment).value? name = some (.list place))
      (owned : place < state.heap.lists.size)
      (areScalar : ∀ item ∈ copies.list copy, item.isReference = false)

/-- Final values were written back: variables have them, coerced to their types, and the lists of
names have the items. No other name and no other list has changed. -/
structure IsReturned (environment : Environment) (copies : Heap) (values : String → Option Value)
    (names : List String) (before after : State) : Prop where
  varies : { before with heap := after.heap }.Varies after
  onlyLists : after.heap = { before.heap with lists := after.heap.lists }
  noLists : (∀ name ∈ names, ∀ copy, values name ≠ some (.list copy)) → after.heap = before.heap
  grown : before.heap.lists.size ≤ after.heap.lists.size
  scalars : ∀ name, Text.asciiLower name ∈ names → ∀ value,
    values (Text.asciiLower name) = some value → value.isReference = false →
    (after.scope environment).value? name =
      some (before.heap.coerceTo (before.frame.types.get? name) value)
  others : ∀ name, (Text.asciiLower name ∈ names → ∃ copy,
      values (Text.asciiLower name) = some (.list copy)) →
    (after.scope environment).value? name = (before.scope environment).value? name
  items : ∀ name ∈ names, ∀ place copy, values name = some (.list copy) →
    (before.scope environment).value? name = some (.list place) →
    after.heap.list place = copies.list copy
  kept : ∀ place, place < before.heap.lists.size →
    (∀ name ∈ names, ∀ copy, values name = some (.list copy) →
      (before.scope environment).value? name ≠ some (.list place)) →
    after.heap.list place = before.heap.list place

/-- Names whose final values can be written back one after the other: they are plain, in lower case
and different, and so are the lists that they mean. -/
structure AreReturnable (environment : Environment) (copies : Heap) (values : String → Option Value)
    (names : List String) (state : State) : Prop where
  plain : ∀ name ∈ names, IsPlainName name
  lower : ∀ name ∈ names, Text.asciiLower name = name
  nodup : names.Nodup
  apart : names.Pairwise fun first second => ∀ place,
    (state.scope environment).value? first = some (.list place) →
    (state.scope environment).value? second ≠ some (.list place)
  returns : ∀ name ∈ names, state.Returns environment copies values name

theorem mergeUpdates_of_scalar {value : Value} (final : values name = some value)
    (scalar : value.isReference = false) :
    state.mergeUpdates environment (updatesOf copies values (name :: rest)) =
      (state.set environment name value).mergeUpdates environment (updatesOf copies values rest) := by
  simp only [updatesOf, List.filterMap_cons, final, Option.map_some, mergeUpdates,
    Heap.build_contents scalar]
  rw [mergeValue_eq_set scalar]

/-- The heap in which a list has got the items of another one, which were built in a new place. -/
def withItems (state : State) (place : Nat) (items : Array Value) : State :=
  { state with heap := (state.heap.newList items).2.modifyList place fun _ => items }

theorem list_withItems_self {place : Nat} {items : Array Value}
    (owned : place < state.heap.lists.size) : (state.withItems place items).heap.list place = items := by
  simp only [withItems, Heap.modifyList, Heap.newList, Heap.list, Array.getD_eq_getD_getElem?,
    Array.getElem?_modify, if_true, Array.getElem?_push, if_neg (Nat.ne_of_lt owned),
    Array.getElem?_eq_getElem owned, Option.map_some, Option.getD_some]

theorem list_withItems_of_ne {place other : Nat} {items : Array Value} (differs : place ≠ other)
    (owned : other < state.heap.lists.size) :
    (state.withItems place items).heap.list other = state.heap.list other := by
  simp only [withItems, Heap.modifyList, Heap.newList, Heap.list, Array.getD_eq_getD_getElem?,
    Array.getElem?_modify, if_neg differs, Array.getElem?_push, if_neg (Nat.ne_of_lt owned)]

theorem mergeUpdates_of_items {place copy : Nat} (plain : IsPlainName name)
    (final : values name = some (.list copy))
    (bound : (state.scope environment).value? name = some (.list place))
    (areScalar : ∀ item ∈ copies.list copy, item.isReference = false) :
    state.mergeUpdates environment (updatesOf copies values (name :: rest)) =
      (state.withItems place (copies.list copy)).mergeUpdates environment
        (updatesOf copies values rest) := by
  have bound : (({ state with heap := (state.heap.newList (copies.list copy)).2 } : State).scope
      environment).get? name = some (.list place) := by
    rw [Scope.get?_eq_value? plain]
    exact bound
  have built : (copies.contents (.list copy)).build state.heap =
      (.list state.heap.lists.size, (state.heap.newList (copies.list copy)).2) :=
    Heap.build_contents_list areScalar state.heap
  simp only [updatesOf, List.filterMap_cons, final, Option.map_some, mergeUpdates, built]
  rw [mergeValue_list bound]
  simp only [Heap.list_newList, withItems]

theorem AreReturnable.tail {first : String}
    (returnable : AreReturnable environment copies values (first :: rest) before)
    (sameValues : ∀ name ∈ rest,
      (after.scope environment).value? name = (before.scope environment).value? name)
    (grown : before.heap.lists.size ≤ after.heap.lists.size) :
    AreReturnable environment copies values rest after where
  plain name member := returnable.plain name (.tail _ member)
  lower name member := returnable.lower name (.tail _ member)
  nodup := returnable.nodup.of_cons
  apart := by
    refine returnable.apart.of_cons.imp_of_mem fun first second separate => ?_
    rw [sameValues _ first, sameValues _ second]
    exact separate
  returns name member := by
    rcases returnable.returns name (.tail _ member) with
      ⟨final, isScalar⟩ | ⟨final, bound, owned, areScalar⟩
    · exact .scalar final isScalar
    · exact .items final ((sameValues name member).trans bound) (Nat.lt_of_lt_of_le owned grown)
        areScalar

theorem IsReturned.cons_scalar {first : String} {value : Value} (plain : IsPlainName first)
    (lower : Text.asciiLower first = first) (notLater : first ∉ rest)
    (final : values first = some value) (isScalar : value.isReference = false)
    (lowerRest : ∀ name ∈ rest, Text.asciiLower name = name)
    (later : IsReturned environment copies values rest (before.set environment first value) after) :
    IsReturned environment copies values (first :: rest) before after := by
  have varies := Varies.set plain before environment value
  have sameHeap := varies.heap_eq
  have sameTypes : (before.set environment first value).frame.types = before.frame.types := by
    rw [varies]
  have valueOf (name : String) (differs : first ≠ Text.asciiLower name) :
      ((before.set environment first value).scope environment).value? name =
        (before.scope environment).value? name := by
    rw [value?_set plain, if_neg (by rwa [lower])]
  have notFirst {name : String} (member : name ∈ rest) : first ≠ Text.asciiLower name := by
    rw [lowerRest name member]
    rintro rfl
    exact notLater member
  -- The name has a value that is no list, so it is none of the names whose items are written.
  have noList {name : String} {copy : Nat} (same : first = name)
      (isList : values name = some (.list copy)) : False := by
    subst same
    rw [final] at isList
    cases isList
    cases isScalar
  refine
    { varies := ?_
      onlyLists := by rw [later.onlyLists, sameHeap]
      noLists := fun unlisted => by
        rw [later.noLists fun name member => unlisted name (.tail _ member), sameHeap]
      grown := by rw [← sameHeap]; exact later.grown
      scalars := ?_
      others := ?_
      items := ?_
      kept := ?_ }
  · exact (varies.withHeap after.heap).trans later.varies
  · intro name member held isFinal scalar
    by_cases isLater : Text.asciiLower name ∈ rest
    · rw [later.scalars name isLater held isFinal scalar, sameTypes,
        Heap.coerceTo_congr _ _ before.heap]
    · have same : first = Text.asciiLower name :=
        ((List.mem_cons.1 member).resolve_right isLater).symm
      rw [later.others name fun inside => absurd inside isLater, value?_set plain,
        if_pos (by rwa [lower])]
      have sameType : before.frame.types.get? name = before.frame.types.get? first := by
        rw [same, NameMap.get?_asciiLower]
      rw [← same, final] at isFinal
      rw [sameType, Option.some.inj isFinal]
  · intro name isList
    have differs : first ≠ Text.asciiLower name := by
      intro same
      obtain ⟨copy, isCopy⟩ := isList (same ▸ .head _)
      exact noList same isCopy
    rw [later.others name fun inside => isList (.tail _ inside), valueOf name differs]
  · intro name member place copy isCopy bound
    have inside : name ∈ rest :=
      (List.mem_cons.1 member).resolve_left fun same => noList same.symm isCopy
    exact later.items name inside place copy isCopy
      ((valueOf name (notFirst inside)).trans bound)
  · intro place owned untouched
    rw [later.kept place (by rw [sameHeap]; exact owned), sameHeap]
    intro name member copy isCopy
    rw [valueOf name (notFirst member)]
    exact untouched name (.tail _ member) copy isCopy

theorem IsReturned.cons_items {first : String} {place copy : Nat}
    (final : values first = some (.list copy))
    (bound : (before.scope environment).value? first = some (.list place))
    (owned : place < before.heap.lists.size)
    (apart : ∀ name ∈ rest, (before.scope environment).value? name ≠ some (.list place))
    (later : IsReturned environment copies values rest (before.withItems place (copies.list copy))
      after) :
    IsReturned environment copies values (first :: rest) before after := by
  have sizes : (before.withItems place (copies.list copy)).heap.lists.size =
      before.heap.lists.size + 1 := by
    simp [withItems, Heap.modifyList, Heap.newList]
  have noScalar {name : String} {value : Value} (same : name = first)
      (isFinal : values name = some value) : value.isReference = true := by
    subst same
    rw [final] at isFinal
    cases isFinal
    rfl
  refine
    { varies := later.varies
      onlyLists := later.onlyLists
      noLists := fun unlisted => absurd final (unlisted first (.head _) copy)
      grown := by have := later.grown; omega
      scalars := ?_
      others := fun name isList => later.others name fun inside => isList (.tail _ inside)
      items := ?_
      kept := ?_ }
  · intro name member value isFinal isScalar
    have inside : Text.asciiLower name ∈ rest := by
      refine (List.mem_cons.1 member).resolve_left fun same => ?_
      rw [noScalar same isFinal] at isScalar
      cases isScalar
    rw [later.scalars name inside value isFinal isScalar,
      Heap.coerceTo_congr _ _ before.heap]
    rfl
  · intro name member other otherCopy isCopy otherBound
    rcases List.mem_cons.1 member with rfl | inside
    · obtain ⟨⟩ := Option.some.inj (isCopy.symm.trans final)
      obtain ⟨⟩ := Option.some.inj (otherBound.symm.trans bound)
      -- No later name means this list, so its items stay as they were written.
      rw [later.kept place (by omega) fun name member _ _ => apart name member,
        list_withItems_self owned]
    · exact later.items name inside other otherCopy isCopy otherBound
  · intro other otherOwned untouched
    have differs : place ≠ other := by
      rintro rfl
      exact untouched first (.head _) copy final bound
    rw [later.kept other (by omega) fun name member => untouched name (.tail _ member),
      list_withItems_of_ne differs otherOwned]

theorem AreReturnable.isReturned (returnable : AreReturnable environment copies values names state) :
    IsReturned environment copies values names state
      (state.mergeUpdates environment (updatesOf copies values names)) := by
  induction names generalizing state with
  | nil =>
      exact
        { varies := .refl state
          onlyLists := rfl
          noLists := fun _ => rfl
          grown := Nat.le_refl _
          scalars := fun _ member => nomatch member
          others := fun _ _ => rfl
          items := fun _ member => nomatch member
          kept := fun _ _ _ => rfl }
  | cons first rest induction =>
      have plain := returnable.plain first (.head _)
      have lower := returnable.lower first (.head _)
      have notLater : first ∉ rest := (List.nodup_cons.1 returnable.nodup).1
      have lowerRest : ∀ name ∈ rest, Text.asciiLower name = name :=
        fun name member => returnable.lower name (.tail _ member)
      rcases returnable.returns first (.head _) with
        @⟨value, final, isScalar⟩ | @⟨place, copy, final, bound, owned, areScalar⟩
      · have sameHeap := (Varies.set plain state environment value).heap_eq
        have sameValues : ∀ name ∈ rest,
            ((state.set environment first value).scope environment).value? name =
              (state.scope environment).value? name := by
          intro name member
          rw [value?_set plain, if_neg]
          rw [lower, lowerRest name member]
          rintro rfl
          exact notLater member
        rw [mergeUpdates_of_scalar final isScalar]
        exact .cons_scalar plain lower notLater final isScalar lowerRest
          (induction (returnable.tail sameValues (by rw [sameHeap])))
      · rw [mergeUpdates_of_items plain final bound areScalar]
        refine .cons_items final bound owned ?_ (induction (returnable.tail (fun _ _ => rfl) ?_))
        · exact fun name member => List.rel_of_pairwise_cons returnable.apart member place bound
        · simp [withItems, Heap.modifyList, Heap.newList]

end State

end MacroSandbox
