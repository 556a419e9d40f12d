import MacroSandbox.Evaluation.Assignment
import MacroSandbox.Loop.Machine
import MacroSandbox.Proofs.Copies

/-! Arrays that grow as they are written.

A compiled loop writes past the end of an array by making it longer, where the interpreter refuses.
Both write elements that exist in the same way. Rows of an array are lists of their own, which may be
held elsewhere too: an array may even be a row of itself. -/

namespace MacroSandbox

namespace Heap

/-! ## Lists after a change -/

theorem list_modifyList_self {heap : Heap} {place : Nat} (has : place < heap.lists.size)
    (change : Array Value → Array Value) :
    (heap.modifyList place change).list place = change (heap.list place) := by
  simp only [modifyList, list, Array.getD_eq_getD_getElem?, Array.getElem?_modify, if_true,
    Array.getElem?_eq_getElem has, Option.map_some, Option.getD_some]

theorem list_modifyList_of_ne {heap : Heap} {place other : Nat} (differs : place ≠ other)
    (change : Array Value → Array Value) :
    (heap.modifyList place change).list other = heap.list other := by
  simp only [modifyList, list, Array.getD_eq_getD_getElem?, Array.getElem?_modify,
    if_neg differs]

@[simp] theorem maps_modifyList (heap : Heap) (place : Nat)
    (change : Array Value → Array Value) : (heap.modifyList place change).maps = heap.maps :=
  rfl

@[simp] theorem objects_modifyList (heap : Heap) (place : Nat)
    (change : Array Value → Array Value) : (heap.modifyList place change).objects = heap.objects :=
  rfl

theorem modifyList_append_nothing (heap : Heap) (place : Nat) :
    heap.modifyList place (· ++ #[]) = heap := by
  have same : heap.lists.modify place (· ++ #[]) = heap.lists := by
    apply Array.ext_getElem?
    intro index
    rw [Array.getElem?_modify]
    split
    · simp
    · rfl
  rw [modifyList, same]

theorem list_newList_of_lt {heap : Heap} {place : Nat} (has : place < heap.lists.size)
    (items : Array Value) : (heap.newList items).2.list place = heap.list place :=
  (@KeepsBut.newList none heap items).list_eq has nofun

/-! ## Items -/

/-- The items of an array after a write to a position: as many as before, or as many as are needed
for the position, with zeros in the gap. -/
structure IsExtended (before after : Array Value) (position : Nat) (value : Value) : Prop where
  size : after.size = max before.size (position + 1)
  written : after[position]? = some value
  kept : ∀ index, index < before.size → index ≠ position → after[index]? = before[index]?
  gap : ∀ index, before.size ≤ index → index < position → after[index]? = some (.integer 0)

theorem isExtended_setIfInBounds (items : Array Value) (position : Nat) (value : Value) :
    IsExtended items ((extendWithZeros items position).setIfInBounds position value) position
      value where
  size := by
    simp only [Array.size_setIfInBounds, extendWithZeros, Array.size_append, Array.size_replicate]
    omega
  written := by
    rw [Array.getElem?_setIfInBounds_self_of_lt]
    simp only [extendWithZeros, Array.size_append, Array.size_replicate]
    omega
  kept index inside other := by
    rw [Array.getElem?_setIfInBounds_ne (Ne.symm other), extendWithZeros,
      Array.getElem?_append_left inside]
  gap index outside before := by
    rw [Array.getElem?_setIfInBounds_ne (by omega), extendWithZeros,
      Array.getElem?_append_right outside, Array.getElem?_replicate, if_pos (by omega)]

theorem isExtended_writeItem {heap : Heap} {place : Nat} (has : place < heap.lists.size)
    (position : Nat) (value : Value) :
    IsExtended (heap.list place) ((heap.writeItem place position value).list place) position
      value := by
  rw [writeItem, list_modifyList_self has]
  exact isExtended_setIfInBounds _ _ _

theorem extendWithZeros_of_lt {items : Array Value} {position : Nat}
    (inside : position < items.size) : extendWithZeros items position = items := by
  have none : position + 1 - items.size = 0 := by omega
  simp [extendWithZeros, none]

theorem list_writeItem_self {heap : Heap} {place position : Nat} {value : Value}
    (has : place < heap.lists.size) (inside : position < (heap.list place).size) :
    (heap.writeItem place position value).list place =
      (heap.list place).setIfInBounds position value := by
  rw [writeItem, list_modifyList_self has, extendWithZeros_of_lt inside]

theorem getElem?_writeItem_of_ne {heap : Heap} {place other position : Nat} {value : Value}
    (differs : place ≠ other) :
    (heap.writeItem place position value).lists[other]? = heap.lists[other]? := by
  simp only [writeItem, modifyList, Array.getElem?_modify, if_neg differs]

theorem list_writeItem_of_ne {heap : Heap} {place other position : Nat} {value : Value}
    (differs : place ≠ other) :
    (heap.writeItem place position value).list other = heap.list other :=
  list_modifyList_of_ne differs _

/-! ## Rows -/

def withLists (heap : Heap) (count : Nat) : Heap :=
  { heap with lists := heap.lists ++ Array.replicate count #[] }

def newRows (heap : Heap) (count : Nat) : Array Value :=
  ((List.range' heap.lists.size count).map Value.list).toArray

@[simp] theorem size_newRows (heap : Heap) (count : Nat) : (heap.newRows count).size = count := by
  simp [newRows]

theorem getElem?_newRows (heap : Heap) {count index : Nat} (inside : index < count) :
    (heap.newRows count)[index]? = some (.list (heap.lists.size + index)) := by
  rw [newRows, List.getElem?_toArray, List.getElem?_map, List.getElem?_range' inside,
    Option.map_some, Nat.one_mul]

@[simp] theorem size_withLists (heap : Heap) (count : Nat) :
    (heap.withLists count).lists.size = heap.lists.size + count := by
  rw [withLists, Array.size_append, Array.size_replicate]

@[simp] theorem maps_withLists (heap : Heap) (count : Nat) :
    (heap.withLists count).maps = heap.maps :=
  rfl

@[simp] theorem objects_withLists (heap : Heap) (count : Nat) :
    (heap.withLists count).objects = heap.objects :=
  rfl

theorem list_withLists_of_lt {heap : Heap} {place : Nat} (has : place < heap.lists.size)
    (count : Nat) : (heap.withLists count).list place = heap.list place := by
  simp only [withLists, list, Array.getD_eq_getD_getElem?, Array.getElem?_append_left has]

theorem list_withLists_of_ge {heap : Heap} {place : Nat} (isNew : heap.lists.size ≤ place)
    (count : Nat) : (heap.withLists count).list place = #[] := by
  simp only [withLists, list, Array.getD_eq_getD_getElem?, Array.getElem?_append_right isNew,
    Array.getElem?_replicate]
  split <;> rfl

theorem buildMany_newList (count : Nat) (heap : Heap) (items : Array Value) :
    buildMany (fun heap => heap.newList #[]) count heap items =
      (items ++ heap.newRows count, heap.withLists count) := by
  induction count generalizing heap items with
  | zero => simp [buildMany, newRows, withLists]
  | succ count hypothesis =>
      have made : items.push (.list heap.lists.size) ++ (heap.newList #[]).2.newRows count =
          items ++ heap.newRows (count + 1) := by
        apply Array.ext'
        simp [newRows, newList, List.range'_succ]
      have lists : (heap.newList #[]).2.withLists count = heap.withLists (count + 1) := by
        have all : heap.lists.push #[] ++ Array.replicate count #[] =
            heap.lists ++ Array.replicate (count + 1) #[] :=
          Array.ext' (by simp [List.replicate_succ])
        rw [withLists, withLists, newList, all]
      rw [buildMany, ← made, ← lists]
      exact hypothesis (heap.newList #[]).2 _

def row? (heap : Heap) (place row : Nat) : Option Nat :=
  match (heap.list place)[row]? with
  | some (.list rowPlace) => some rowPlace
  | _ => none

theorem row?_eq_some_iff {heap : Heap} {place row rowPlace : Nat} :
    heap.row? place row = some rowPlace ↔ (heap.list place)[row]? = some (.list rowPlace) := by
  unfold row?
  split
  · rename_i other found
    rw [found, Option.some.injEq, Option.some.injEq, Value.list.injEq]
  · rename_i none
    simpa using none rowPlace

/-- The items of a row before it is written: a row that is no list, or is not there, is empty. -/
def rowItems (heap : Heap) (place row : Nat) : Array Value :=
  match heap.row? place row with
  | some rowPlace => heap.list rowPlace
  | none => #[]

/-- An array after one of its rows was made a list: the row is the list that it was, or else a new
one, and there are new empty rows in the gap. -/
structure HasRow (heap later : Heap) (place row rowPlace : Nat) : Prop where
  isRow : heap.row? place row = some rowPlace ∨
    heap.row? place row = none ∧ heap.lists.size ≤ rowPlace
  size : (later.list place).size = max (heap.list place).size (row + 1)
  found : (later.list place)[row]? = some (.list rowPlace)
  kept : ∀ index, index < (heap.list place).size → index ≠ row →
    (later.list place)[index]? = (heap.list place)[index]?
  gap : ∀ index, (heap.list place).size ≤ index → index < row →
    ∃ fresh, fresh = heap.lists.size + (index - (heap.list place).size) ∧ fresh ≠ rowPlace ∧
      (later.list place)[index]? = some (.list fresh) ∧ later.list fresh = #[]

/-- Nothing changes but lists: those at two places, and new ones. -/
structure Rewrites (heap later : Heap) (place other : Nat) : Prop where
  lists : ∀ untouched, untouched < heap.lists.size → untouched ≠ place → untouched ≠ other →
    later.list untouched = heap.list untouched
  grows : heap.lists.size ≤ later.lists.size
  maps : later.maps = heap.maps
  objects : later.objects = heap.objects

theorem rewrites_writeItem (heap : Heap) (place position : Nat) (value : Value) :
    heap.Rewrites (heap.writeItem place position value) place place where
  lists _ _ differs _ := list_writeItem_of_ne (Ne.symm differs)
  grows := by simp [writeItem, modifyList]
  maps := rfl
  objects := rfl

theorem ensureRow_of_row? {heap : Heap} {place row rowPlace : Nat}
    (isRow : heap.row? place row = some rowPlace) :
    heap.ensureRow place row = (rowPlace, heap) := by
  have found := row?_eq_some_iff.1 isRow
  have inside : row < (heap.list place).size := (Array.getElem?_eq_some_iff.1 found).1
  have missing : row + 1 - (heap.list place).size = 0 := by omega
  have item : (heap.list place).getD row .null = .list rowPlace := by
    rw [Array.getD_eq_getD_getElem?, found, Option.getD_some]
  simp only [ensureRow, missing, buildMany, modifyList_append_nothing, item]

theorem ensureRow_of_size_le {heap : Heap} {place row : Nat} (has : place < heap.lists.size)
    (outside : (heap.list place).size ≤ row) :
    let count := row + 1 - (heap.list place).size
    heap.ensureRow place row =
      (heap.lists.size + (row - (heap.list place).size),
        (heap.withLists count).modifyList place (· ++ heap.newRows count)) := by
  intro count
  have built := buildMany_newList count heap #[]
  rw [Array.empty_append] at built
  have hasMore : place < (heap.withLists count).lists.size := by
    rw [size_withLists]
    omega
  have item : (((heap.withLists count).modifyList place (· ++ heap.newRows count)).list
      place).getD row .null = .list (heap.lists.size + (row - (heap.list place).size)) := by
    rw [list_modifyList_self hasMore, list_withLists_of_lt has, Array.getD_eq_getD_getElem?,
      Array.getElem?_append_right outside, getElem?_newRows _ (by omega), Option.getD_some]
  simp only [ensureRow, count] at built item ⊢
  simp only [built, item]

theorem ensureRow_of_not_list {heap : Heap} {place row : Nat}
    (inside : row < (heap.list place).size) (none : heap.row? place row = none) :
    heap.ensureRow place row =
      (heap.lists.size, (heap.newList #[]).2.modifyList place fun items =>
        items.setIfInBounds row (.list heap.lists.size)) := by
  have missing : row + 1 - (heap.list place).size = 0 := by omega
  simp only [ensureRow, missing, buildMany, modifyList_append_nothing]
  split
  · rename_i rowPlace item
    rw [Array.getD_eq_getD_getElem?, Array.getElem?_eq_getElem inside, Option.getD_some] at item
    have isRow : heap.row? place row = some rowPlace := by
      rw [row?_eq_some_iff, Array.getElem?_eq_getElem inside, item]
    rw [isRow] at none
    cases none
  · rfl

/-- What making a row a list does to the array, to the row, and to everything else. -/
structure MakesRow (heap later : Heap) (place row rowPlace : Nat) : Prop
    extends heap.HasRow later place row rowPlace, heap.Rewrites later place place where
  items : later.list rowPlace = heap.rowItems place row
  has : rowPlace < later.lists.size

theorem makesRow_of_row? {heap : Heap} {place row rowPlace : Nat}
    (isRow : heap.row? place row = some rowPlace) (hasRow : rowPlace < heap.lists.size) :
    heap.MakesRow heap place row rowPlace := by
  have found := row?_eq_some_iff.1 isRow
  have inside : row < (heap.list place).size := (Array.getElem?_eq_some_iff.1 found).1
  refine ⟨⟨.inl isRow, by omega, found, fun _ _ _ => rfl, fun _ _ _ => by omega⟩,
    ⟨fun _ _ _ _ => rfl, Nat.le_refl _, rfl, rfl⟩, ?_, hasRow⟩
  rw [rowItems, isRow]

theorem makesRow_of_not_list {heap : Heap} {place row : Nat} (has : place < heap.lists.size)
    (inside : row < (heap.list place).size) (none : heap.row? place row = none) :
    heap.MakesRow ((heap.newList #[]).2.modifyList place fun items =>
      items.setIfInBounds row (.list heap.lists.size)) place row heap.lists.size := by
  have hasMore : place < (heap.newList #[]).2.lists.size := by
    simp only [newList, Array.size_push]
    omega
  have array := list_modifyList_self hasMore fun items =>
    items.setIfInBounds row (.list heap.lists.size)
  rw [list_newList_of_lt has] at array
  refine ⟨⟨.inr ⟨none, Nat.le_refl _⟩, ?_, ?_, fun index _ other => ?_, fun _ _ _ => by omega⟩,
    ⟨fun untouched inHeap differs _ => ?_, ?_, rfl, rfl⟩, ?_, ?_⟩
  · rw [array, Array.size_setIfInBounds]
    omega
  · rw [array, Array.getElem?_setIfInBounds_self_of_lt inside]
  · rw [array, Array.getElem?_setIfInBounds_ne (Ne.symm other)]
  · rw [list_modifyList_of_ne (Ne.symm differs), list_newList_of_lt inHeap]
  · simp [modifyList, newList]
  · rw [list_modifyList_of_ne (Nat.ne_of_lt has), list_newList, rowItems, none]
  · simp [modifyList, newList]

theorem makesRow_of_size_le {heap : Heap} {place row : Nat} (has : place < heap.lists.size)
    (outside : (heap.list place).size ≤ row) :
    let count := row + 1 - (heap.list place).size
    heap.MakesRow ((heap.withLists count).modifyList place (· ++ heap.newRows count)) place row
      (heap.lists.size + (row - (heap.list place).size)) := by
  intro count
  have none : heap.row? place row = none := by
    rw [row?, Array.getElem?_eq_none outside]
  have hasMore : place < (heap.withLists count).lists.size := by
    rw [size_withLists]
    omega
  have array := list_modifyList_self hasMore (· ++ heap.newRows count)
  rw [list_withLists_of_lt has] at array
  -- The rows that are added are new places, one after the other.
  have rowAt {index : Nat} (past : (heap.list place).size ≤ index) (within : index ≤ row) :
      (heap.list place ++ heap.newRows count)[index]? =
        some (.list (heap.lists.size + (index - (heap.list place).size))) := by
    rw [Array.getElem?_append_right past, getElem?_newRows _ (by omega)]
  have empty {fresh : Nat} (isNew : heap.lists.size ≤ fresh) :
      ((heap.withLists count).modifyList place (· ++ heap.newRows count)).list fresh = #[] := by
    rw [list_modifyList_of_ne (by omega), list_withLists_of_ge isNew]
  have total : ((heap.withLists count).modifyList place (· ++ heap.newRows count)).lists.size =
      heap.lists.size + count := by
    rw [modifyList, Array.size_modify, size_withLists]
  refine ⟨⟨.inr ⟨none, Nat.le_add_right _ _⟩, ?_, ?_, fun index inArray _ => ?_,
      fun index past within => ⟨_, rfl, by omega, ?_, ?_⟩⟩,
    ⟨fun untouched inHeap differs _ => ?_, by omega, by simp, by simp⟩, ?_, by omega⟩
  · rw [array, Array.size_append, size_newRows]
    omega
  · rw [array, rowAt outside (Nat.le_refl _)]
  · rw [array, Array.getElem?_append_left inArray]
  · rw [array, rowAt past (Nat.le_of_lt within)]
  · exact empty (Nat.le_add_right _ _)
  · rw [list_modifyList_of_ne (Ne.symm differs), list_withLists_of_lt inHeap]
  · rw [empty (Nat.le_add_right _ _), rowItems, none]

/-- A row that is a list is kept, one that is not is replaced, and one that is missing is made
together with those before it. -/
theorem makesRow_ensureRow {heap : Heap} {place : Nat} (has : place < heap.lists.size) (row : Nat)
    (hasRows : ∀ rowPlace, heap.row? place row = some rowPlace → rowPlace < heap.lists.size) :
    heap.MakesRow (heap.ensureRow place row).2 place row (heap.ensureRow place row).1 := by
  cases isRow : heap.row? place row with
  | some rowPlace =>
      rw [ensureRow_of_row? isRow]
      exact makesRow_of_row? isRow (hasRows rowPlace isRow)
  | none =>
      by_cases inside : row < (heap.list place).size
      · rw [ensureRow_of_not_list inside isRow]
        exact makesRow_of_not_list has inside isRow
      · rw [ensureRow_of_size_le has (Nat.le_of_not_lt inside)]
        exact makesRow_of_size_le has (Nat.le_of_not_lt inside)

theorem isExtended_write_nested {heap : Heap} {place : Nat} (has : place < heap.lists.size)
    (row column : Nat) (value : Value)
    (hasRows : ∀ rowPlace, heap.row? place row = some rowPlace → rowPlace < heap.lists.size) :
    let later := heap.write (.nested place row column) value
    let rowPlace := (heap.ensureRow place row).1
    IsExtended (heap.rowItems place row) (later.list rowPlace) column value ∧
      heap.Rewrites later place rowPlace ∧
      (rowPlace ≠ place → heap.HasRow later place row rowPlace) := by
  have made := makesRow_ensureRow has row hasRows
  simp only [write]
  generalize heap.ensureRow place row = ensured at made
  rcases ensured with ⟨rowPlace, middle⟩
  dsimp only at made ⊢
  have written := isExtended_writeItem made.has column value
  rw [made.items] at written
  have rewritten := rewrites_writeItem middle rowPlace column value
  refine ⟨written, ⟨fun untouched inHeap notArray notRow => ?_,
    Nat.le_trans made.grows rewritten.grows, rewritten.maps.trans made.maps,
    rewritten.objects.trans made.objects⟩, fun differs => ?_⟩
  · rw [rewritten.lists untouched (Nat.lt_of_lt_of_le inHeap made.grows) notRow notRow]
    exact made.lists untouched inHeap notArray notArray
  · -- The write goes to the row only, so the array is as it was when the row was made.
    have array := @list_writeItem_of_ne middle rowPlace place column value differs
    refine ⟨made.isRow, ?_, ?_, ?_, fun index past before => ?_⟩
    · rw [array]
      exact made.size
    · rw [array]
      exact made.found
    · rw [array]
      exact made.kept
    · obtain ⟨fresh, place, notRow, found, empty⟩ := made.gap index past before
      refine ⟨fresh, place, notRow, ?_, ?_⟩
      · rw [array, found]
      · rw [list_writeItem_of_ne (Ne.symm notRow), empty]

theorem write_nested_of_row? {heap : Heap} {place row rowPlace : Nat}
    (isRow : heap.row? place row = some rowPlace) (column : Nat) (value : Value) :
    heap.write (.nested place row column) value = heap.write (.item rowPlace column) value := by
  simp only [write, ensureRow_of_row? isRow]

end Heap

/-! ## Indices -/

section Indices

variable {heap : Heap} {index : Value} {position : Nat}

theorem growingIndex_of_lt (denotes : index.toInteger.toInt = position)
    (small : position < maxAllocation) : growingIndex index = .ok position := by
  rw [growingIndex, denotes]
  rw [if_pos (by simp only [Bool.and_eq_true, decide_eq_true_eq]; omega), Int.toNat_natCast]

theorem growingSlot_item {place : Nat} (denotes : index.toInteger.toInt = position)
    (small : position < maxAllocation) :
    growingSlot heap (.list place) [index] = .ok (.item place position) := by
  rw [growingSlot, growingIndex_of_lt denotes small]
  rfl

theorem growingIndex_of_outside
    (outside : ¬ (0 ≤ index.toInteger.toInt ∧ index.toInteger.toInt < maxAllocation)) :
    growingIndex index = .error (indexFault index.toInteger) := by
  rw [growingIndex, if_neg]
  simp only [Bool.and_eq_true, decide_eq_true_eq]
  omega

theorem elementIndex_eq_ok_iff {items : Array Value} :
    elementIndex items index = .ok position ↔
      index.toInteger.toInt = position ∧ position < items.size := by
  unfold elementIndex
  dsimp only
  split
  · rename_i inside
    simp only [Bool.and_eq_true, decide_eq_true_eq] at inside
    rw [Except.ok.injEq]
    omega
  · rename_i outside
    simp only [Bool.and_eq_true, decide_eq_true_eq] at outside
    simp only [reduceCtorEq, false_iff]
    omega

theorem indexValue_of_getElem? {place : Nat} {item : Value}
    (denotes : index.toInteger.toInt = position)
    (found : (heap.list place)[position]? = some item) (rest : List Value) :
    indexValue heap (.list place) (index :: rest) = indexValue heap item rest := by
  have inside : position < (heap.list place).size := (Array.getElem?_eq_some_iff.1 found).1
  rw [indexValue, elementIndex_eq_ok_iff.2 ⟨denotes, inside⟩]
  dsimp only
  rw [Array.getD_eq_getD_getElem?, found, Option.getD_some]

theorem elementSlot_item {place : Nat} (denotes : index.toInteger.toInt = position)
    (inside : position < (heap.list place).size) :
    elementSlot heap (.list place) [index] = .ok (.item place position) := by
  rw [elementSlot, elementIndex_eq_ok_iff.2 ⟨denotes, inside⟩]
  rfl

theorem elementSlot_row {place row rowPlace column : Nat} {first second : Value}
    (denotesRow : first.toInteger.toInt = row) (denotesColumn : second.toInteger.toInt = column)
    (isRow : heap.row? place row = some rowPlace) (inside : column < (heap.list rowPlace).size) :
    elementSlot heap (.list place) [first, second] = .ok (.item rowPlace column) := by
  have found := Heap.row?_eq_some_iff.1 isRow
  have insideRows : row < (heap.list place).size := (Array.getElem?_eq_some_iff.1 found).1
  rw [elementSlot, elementIndex_eq_ok_iff.2 ⟨denotesRow, insideRows⟩]
  dsimp only
  rw [Array.getD_eq_getD_getElem?, found, Option.getD_some]
  exact elementSlot_item denotesColumn inside

def AreGrowing (indices : List Value) : Prop :=
  (indices.length = 1 ∨ indices.length = 2) ∧
    ∀ index ∈ indices, 0 ≤ index.toInteger.toInt ∧ index.toInteger.toInt < maxAllocation

theorem growingSlot_of_not_areGrowing {place : Nat} {indices : List Value}
    (refused : ¬ AreGrowing indices) :
    ∃ message, growingSlot heap (.list place) indices = .error (.subscriptOutOfRange message) := by
  rcases indices with _ | ⟨first, _ | ⟨second, _ | ⟨third, rest⟩⟩⟩
  · exact ⟨_, rfl⟩
  · have outside : ¬ (0 ≤ first.toInteger.toInt ∧ first.toInteger.toInt < maxAllocation) := by
      intro inside
      exact refused ⟨.inl rfl, by simpa using inside⟩
    refine ⟨"index " ++ toString first.toInteger.toInt ++ " out of range", ?_⟩
    rw [growingSlot, growingIndex_of_outside outside]
    rfl
  · by_cases firstInside : 0 ≤ first.toInteger.toInt ∧ first.toInteger.toInt < maxAllocation
    · have outside : ¬ (0 ≤ second.toInteger.toInt ∧ second.toInteger.toInt < maxAllocation) := by
        intro inside
        exact refused ⟨.inr rfl, by simpa using ⟨firstInside, inside⟩⟩
      refine ⟨"index " ++ toString second.toInteger.toInt ++ " out of range", ?_⟩
      rw [growingSlot, growingIndex_of_lt (Int.toNat_of_nonneg firstInside.1).symm (by omega),
        growingIndex_of_outside outside]
      rfl
    · refine ⟨"index " ++ toString first.toInteger.toInt ++ " out of range", ?_⟩
      rw [growingSlot, growingIndex_of_outside firstInside]
      rfl
  · exact ⟨_, rfl⟩

end Indices

/-! ## The two writers -/

namespace Machine

theorem updateElement_of_ok {setup : Setup} {state : State} {target : Value}
    {indices : List Value} {slot : Slot} (found : growingSlot state.heap target indices = .ok slot)
    (value : Value) :
    updateElement target indices value setup state =
      .ok () { state with heap := state.heap.write slot value } := by
  change (lift (growingSlot state.heap target indices) >>= fun slot =>
    modify fun state => { state with heap := state.heap.write slot value }) setup state = _
  rw [found]
  rfl

theorem updateElement_of_error {setup : Setup} {state : State} {target : Value}
    {indices : List Value} {message : String}
    (refused : growingSlot state.heap target indices = .error (.subscriptOutOfRange message))
    (value : Value) :
    updateElement target indices value setup state =
      .error (.fault (.subscriptOutOfRange message)) state := by
  change (lift (growingSlot state.heap target indices) >>= fun slot =>
    modify fun state => { state with heap := state.heap.write slot value }) setup state = _
  rw [refused]
  rfl

end Machine

theorem Eval.storeElement_of_ok {environment : Environment} {state : State} {place : Nat}
    {indices : List Value} {slot : Slot}
    (found : elementSlot state.heap (.list place) indices = .ok slot) (value : Value) :
    Eval.storeElement (.list place) indices value environment state =
      .ok () { state with heap := state.heap.write slot value } := by
  change (Eval.lift (elementSlot state.heap (.list place) indices) >>= fun slot =>
    modify fun state => { state with heap := state.heap.write slot value }) environment state = _
  rw [found]
  rfl

theorem Eval.storeElement_of_error {environment : Environment} {state : State} {place : Nat}
    {indices : List Value} {fault : Fault}
    (refused : elementSlot state.heap (.list place) indices = .error fault) (value : Value) :
    Eval.storeElement (.list place) indices value environment state =
      .error (.fault fault) state := by
  change (Eval.lift (elementSlot state.heap (.list place) indices) >>= fun slot =>
    modify fun state => { state with heap := state.heap.write slot value }) environment state = _
  rw [refused]
  rfl

/-! ## What they leave -/

namespace Machine

variable {setup : Setup} {machine : State} {environment : Environment}
  {state : MacroSandbox.State} {place : Nat}

/-- A write of an item makes the array as long as needed and changes no other list. In range the
interpreter leaves the same heap, in which the value is read back. -/
theorem updateElement_item (has : place < machine.heap.lists.size)
    (sameHeap : state.heap = machine.heap) {index : Value} {position : Nat}
    (denotes : index.toInteger.toInt = position) (small : position < maxAllocation)
    (value : Value) :
    ∃ later,
      updateElement (.list place) [index] value setup machine =
        .ok () { machine with heap := later } ∧
      Heap.IsExtended (machine.heap.list place) (later.list place) position value ∧
      machine.heap.Rewrites later place place ∧
      (position < (machine.heap.list place).size →
        Eval.storeElement (.list place) [index] value environment state =
            .ok () { state with heap := later } ∧
          indexValue later (.list place) [index] = .ok value) := by
  have extended := Heap.isExtended_writeItem has position value
  refine ⟨_, updateElement_of_ok (growingSlot_item denotes small) value, extended,
    Heap.rewrites_writeItem _ _ _ _, fun inside => ⟨?_, ?_⟩⟩
  · rw [← sameHeap] at inside
    rw [Eval.storeElement_of_ok (elementSlot_item denotes inside), sameHeap]
  · exact (indexValue_of_getElem? denotes extended.written []).trans (by rw [indexValue])

/-- A write of an item of a row does the same to the row, which is made first if need be, and
changes no list but the array and the row. In range the interpreter leaves the same heap, in which
the value is read back unless the write has taken the row out of the array. -/
theorem updateElement_nested (has : place < machine.heap.lists.size)
    (hasRows : ∀ rowPlace, .list rowPlace ∈ machine.heap.list place →
      rowPlace < machine.heap.lists.size)
    (sameHeap : state.heap = machine.heap) {first second : Value} {row column : Nat}
    (denotesRow : first.toInteger.toInt = row) (smallRow : row < maxAllocation)
    (denotesColumn : second.toInteger.toInt = column) (smallColumn : column < maxAllocation)
    (value : Value) :
    ∃ later rowPlace,
      updateElement (.list place) [first, second] value setup machine =
        .ok () { machine with heap := later } ∧
      Heap.IsExtended (machine.heap.rowItems place row) (later.list rowPlace) column value ∧
      machine.heap.Rewrites later place rowPlace ∧
      (rowPlace = place → machine.heap.row? place row = some place) ∧
      (rowPlace ≠ place → machine.heap.HasRow later place row rowPlace) ∧
      ∀ old, machine.heap.row? place row = some old → column < (machine.heap.list old).size →
        Eval.storeElement (.list place) [first, second] value environment state =
            .ok () { state with heap := later } ∧
          (old ≠ place ∨ row ≠ column →
            indexValue later (.list place) [first, second] = .ok value) := by
  have hasRow (rowPlace : Nat) (isRow : machine.heap.row? place row = some rowPlace) :
      rowPlace < machine.heap.lists.size :=
    hasRows rowPlace (Array.mem_of_getElem? (Heap.row?_eq_some_iff.1 isRow))
  have slot : growingSlot machine.heap (.list place) [first, second] =
      .ok (.nested place row column) := by
    rw [growingSlot, growingIndex_of_lt denotesRow smallRow,
      growingIndex_of_lt denotesColumn smallColumn]
    rfl
  obtain ⟨extended, rewrites, array⟩ :=
    Heap.isExtended_write_nested has row column value hasRow
  have made := Heap.makesRow_ensureRow has row hasRow
  refine ⟨_, _, updateElement_of_ok slot value, extended, rewrites, fun isArray => ?_, array,
    fun old isRow inside => ⟨?_, fun apart => ?_⟩⟩
  · rcases made.isRow with isRow | ⟨-, isNew⟩
    · rw [isRow, isArray]
    · omega
  · rw [Heap.write_nested_of_row? isRow]
    have isThere := elementSlot_row denotesRow denotesColumn isRow inside
    rw [← sameHeap] at isThere
    rw [Eval.storeElement_of_ok isThere, sameHeap]
  · have rowPlace : (machine.heap.ensureRow place row).1 = old := by
      rw [Heap.ensureRow_of_row? isRow]
    rw [rowPlace] at extended array
    -- The row is still in the array: it is another list, or another item of it was written.
    have found : ((machine.heap.write (.nested place row column) value).list place)[row]? =
        some (.list old) := by
      by_cases isArray : old = place
      · subst isArray
        rw [Heap.rowItems, isRow] at extended
        have before := Heap.row?_eq_some_iff.1 isRow
        rw [extended.kept row (Array.getElem?_eq_some_iff.1 before).1
          (apart.resolve_left (· rfl)), before]
      · exact (array isArray).found
    rw [indexValue_of_getElem? denotesRow found,
      indexValue_of_getElem? denotesColumn extended.written, indexValue]

/-- Writes to an array that grows, and the writes of the interpreter to its elements, from one heap
in which all places of the array are used. One or two indices that an array can have make the array
or its row as long as needed, keep all other items, and change no other list; all other indices are
refused with error 9, and nothing changes. In range both writers leave the same heap, and the value
is read back, unless the array is a row of itself and the write has replaced just this row. -/
theorem updateElement_extends (has : place < machine.heap.lists.size)
    (hasRows : ∀ rowPlace, .list rowPlace ∈ machine.heap.list place →
      rowPlace < machine.heap.lists.size)
    (sameHeap : state.heap = machine.heap) (value : Value) :
    (∀ (index : Value) (position : Nat), index.toInteger.toInt = position →
        position < maxAllocation →
        ∃ later,
          updateElement (.list place) [index] value setup machine =
            .ok () { machine with heap := later } ∧
          Heap.IsExtended (machine.heap.list place) (later.list place) position value ∧
          machine.heap.Rewrites later place place ∧
          (position < (machine.heap.list place).size →
            Eval.storeElement (.list place) [index] value environment state =
                .ok () { state with heap := later } ∧
              indexValue later (.list place) [index] = .ok value)) ∧
      (∀ (first second : Value) (row column : Nat), first.toInteger.toInt = row →
        row < maxAllocation → second.toInteger.toInt = column → column < maxAllocation →
        ∃ later rowPlace,
          updateElement (.list place) [first, second] value setup machine =
            .ok () { machine with heap := later } ∧
          Heap.IsExtended (machine.heap.rowItems place row) (later.list rowPlace) column value ∧
          machine.heap.Rewrites later place rowPlace ∧
          (rowPlace = place → machine.heap.row? place row = some place) ∧
          (rowPlace ≠ place → machine.heap.HasRow later place row rowPlace) ∧
          ∀ old, machine.heap.row? place row = some old →
            column < (machine.heap.list old).size →
            Eval.storeElement (.list place) [first, second] value environment state =
                .ok () { state with heap := later } ∧
              (old ≠ place ∨ row ≠ column →
                indexValue later (.list place) [first, second] = .ok value)) ∧
      ∀ indices, ¬ AreGrowing indices →
        ∃ fault, fault.number = 9 ∧
          updateElement (.list place) indices value setup machine =
            .error (.fault fault) machine := by
  refine ⟨fun index position denotes small => updateElement_item has sameHeap denotes small value,
    fun first second row column denotesRow smallRow denotesColumn smallColumn =>
      updateElement_nested has hasRows sameHeap denotesRow smallRow denotesColumn smallColumn value,
    fun indices refused => ?_⟩
  obtain ⟨message, refusal⟩ :=
    @growingSlot_of_not_areGrowing machine.heap place indices refused
  exact ⟨.subscriptOutOfRange message, rfl, updateElement_of_error refusal value⟩

private def someSetup : Setup :=
  { program := default, maxIterations := 1, maxFaults := 1 }

private theorem not_areGrowing_limit : ¬ AreGrowing [.integer 0x1000000] := by
  rintro ⟨-, within⟩
  exact absurd (within _ (List.mem_singleton_self _)).2 (by decide)

/-- A row of another list is written, and an index that is too large is refused. -/
theorem updateElement_extends_in_row :
    let heap : Heap := { lists := #[#[.integer 1, .list 1], #[.integer 7]] }
    let machine : State := { (default : State) with heap }
    let state : MacroSandbox.State := { (default : MacroSandbox.State) with heap }
    (∃ later,
      updateElement (.list 0) [.integer 1, .integer 0] (.text "x") someSetup machine =
          .ok () { machine with heap := later } ∧
        Eval.storeElement (.list 0) [.integer 1, .integer 0] (.text "x") default state =
          .ok () { state with heap := later } ∧
        indexValue later (.list 0) [.integer 1, .integer 0] = .ok (.text "x")) ∧
      ¬ AreGrowing [.integer 0x1000000] ∧
      ∃ fault, fault.number = 9 ∧
        updateElement (.list 0) [.integer 0x1000000] (.text "x") someSetup machine =
          .error (.fault fault) machine := by
  intro heap machine state
  have hasRows : ∀ rowPlace, .list rowPlace ∈ machine.heap.list 0 →
      rowPlace < machine.heap.lists.size := by
    intro rowPlace member
    simp [machine, heap, Heap.list] at member
    simp [machine, heap, member]
  obtain ⟨-, rows, others⟩ :=
    @updateElement_extends someSetup machine default state 0 (by decide) hasRows rfl (.text "x")
  obtain ⟨later, rowPlace, wrote, -, -, -, -, same⟩ :=
    rows (.integer 1) (.integer 0) 1 0 rfl (by decide) rfl (by decide)
  obtain ⟨stored, read⟩ := same 1 rfl (by decide)
  exact ⟨⟨later, wrote, stored, read (.inl (by decide))⟩, not_areGrowing_limit,
    others _ not_areGrowing_limit⟩

/-- What does not hold without these conditions. In an array that is its own first row, a write to
the first item of the row takes the row out of the array, and what was written is not read back; a
write to a second row makes the first row longer, since it is the array. And an element past the
largest size is written by the interpreter only. -/
theorem updateElement_of_own_row :
    let heap : Heap := { lists := #[#[.list 0]] }
    let machine : State := { (default : State) with heap }
    let large : Heap := { lists := #[Array.replicate 0x1000001 .null] }
    let largeState : MacroSandbox.State := { (default : MacroSandbox.State) with heap := large }
    (elementSlot heap (.list 0) [.integer 0, .integer 0] = .ok (.item 0 0) ∧
      ∃ later, updateElement (.list 0) [.integer 0, .integer 0] (.integer 5) someSetup machine =
          .ok () { machine with heap := later } ∧
        indexValue later (.list 0) [.integer 0, .integer 0] =
          .error (.typeMismatch "Integer is not indexable")) ∧
      (heap.row? 0 0 = some 0 ∧
        ∃ later, updateElement (.list 0) [.integer 1, .integer 0] (.integer 5) someSetup machine =
            .ok () { machine with heap := later } ∧
          later.row? 0 1 = some 1 ∧ (heap.list 0).size = 1 ∧ (later.list 0).size = 2) ∧
      (∃ later, Eval.storeElement (.list 0) [.integer 0x1000000] (.integer 5) default largeState =
        .ok () { largeState with heap := later }) ∧
      ∃ fault, growingSlot large (.list 0) [.integer 0x1000000] = .error fault := by
  intro heap machine large largeState
  have atLimit : (Value.integer 0x1000000).toInteger.toInt = (0x1000000 : Nat) := rfl
  have inside : 0x1000000 < (largeState.heap.list 0).size := by
    simp [largeState, large, Heap.list]
  have isThere := elementSlot_item atLimit inside
  obtain ⟨_, refusal⟩ := @growingSlot_of_not_areGrowing large 0 _ not_areGrowing_limit
  -- A list that is its own first row: the row that is written is the array itself.
  have ownRow : growingSlot machine.heap (.list 0) [.integer 0, .integer 0] =
      .ok (.nested 0 0 0) := rfl
  have nextRow : growingSlot machine.heap (.list 0) [.integer 1, .integer 0] =
      .ok (.nested 0 1 0) := rfl
  have message : (Value.integer 5).kindName ++ " is not indexable" =
      "Integer is not indexable" := by simp [Value.kindName]
  have written : ((machine.heap.write (.nested 0 0 0) (.integer 5)).list 0)[0]? =
      some (.integer 5) := by
    rw [Heap.write_nested_of_row? rfl]
    exact (Heap.isExtended_writeItem (by decide) 0 _).written
  have replaced : indexValue (machine.heap.write (.nested 0 0 0) (.integer 5)) (.list 0)
      [.integer 0, .integer 0] = .error (.typeMismatch "Integer is not indexable") := by
    rw [@indexValue_of_getElem? _ (.integer 0) 0 0 _ rfl written]
    simp only [indexValue, message]
  exact ⟨⟨rfl, _, updateElement_of_ok ownRow _, replaced⟩,
    ⟨rfl, _, updateElement_of_ok nextRow _, rfl, rfl, rfl⟩,
    ⟨_, Eval.storeElement_of_ok isThere _⟩, _, refusal⟩

end Machine

end MacroSandbox
