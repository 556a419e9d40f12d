import MacroSandbox.Arrays
import MacroSandbox.Library.Pure
import MacroSandbox.Operators

/-! Heaps that grow apart from an earlier heap.

Lists and maps of a heap may be set apart. A later heap is separate from them if it has kept them and
nothing in its other places refers to them. Allocations, copies and writes to other places keep a
heap separate, whatever is set apart: all places of the heap, or some of them. -/

namespace MacroSandbox

/-! ## Tables -/

private theorem mem_of_get?_insertMany {α : Type} {key : String} {value : α} :
    ∀ (added : List (String × α)) (table : Std.TreeMap String α),
      (table.insertMany added).get? key = some value →
      table.get? key = some value ∨ (key, value) ∈ added
  | [], table, found => .inl (by simpa using found)
  | (other, first) :: rest, table, found => by
      rw [Std.TreeMap.insertMany_cons] at found
      rcases mem_of_get?_insertMany rest _ found with earlier | later
      · simp only [Std.TreeMap.get?_eq_getElem?, Std.TreeMap.getElem?_insert,
          Std.LawfulEqCmp.compare_eq_iff_eq] at earlier
        split at earlier
        · rename_i same
          cases earlier
          exact .inr (by simp [same])
        · exact .inl earlier
      · exact .inr (List.mem_cons_of_mem _ later)

theorem mem_of_get?_ofList {α : Type} {entries : List (String × α)} {key : String} {value : α}
    (found : (Std.TreeMap.ofList entries).get? key = some value) : (key, value) ∈ entries := by
  rw [Std.TreeMap.ofList_eq_insertMany_empty] at found
  rcases mem_of_get?_insertMany entries ∅ found with inEmpty | member
  · simp at inEmpty
  · exact member

theorem get?_ofList_eq {α : Type} {entries : List (String × α)} {key : String} {found : Option α}
    (listed : ∀ value, (key, value) ∈ entries ↔ found = some value) :
    (Std.TreeMap.ofList entries).get? key = found := by
  cases got : (Std.TreeMap.ofList entries).get? key with
  | some value => exact ((listed value).1 (mem_of_get?_ofList got)).symm
  | none =>
      cases found with
      | none => rfl
      | some value =>
          have absent : key ∉ Std.TreeMap.ofList entries := by
            rw [Std.TreeMap.get?_eq_getElem?] at got
            simpa using got
          simp only [Std.TreeMap.mem_ofList, List.contains_map, List.any_eq_true, not_exists,
            not_and] at absent
          exact absurd (beq_self_eq_true key) (absent _ ((listed value).2 rfl))

theorem values_eq_map_toList {α κ : Type} {order : κ → κ → Ordering} (table : Std.TreeMap κ α order) :
    table.values = table.toList.map Prod.snd := by
  have folded : table.values = table.foldr (fun _ value rest => value :: rest) [] := rfl
  rw [folded, Std.TreeMap.foldr_eq_foldr_toList]
  induction table.toList with
  | nil => rfl
  | cons entry rest induction => rw [List.foldr_cons, induction, List.map_cons]

/-! ## Values without a place -/

def Value.isReference : Value → Bool
  | .list _ | .map _ => true
  | _ => false

theorem Value.isReference_toNumber (value : Value) : value.toNumber.isReference = false := by
  unfold Value.toNumber
  split
  · rfl
  · rfl
  · dsimp only
    repeat' split
    all_goals rfl
  · rfl

theorem isReference_initial (type : Option DeclaredType) :
    (DeclaredType.initial type).isReference = false := by
  unfold DeclaredType.initial
  split <;> rfl

theorem UnaryOperator.isReference_apply (operator : UnaryOperator) (operand : Value) :
    (operator.apply operand).isReference = false := by
  unfold UnaryOperator.apply
  repeat' split
  all_goals rfl

theorem isReference_arithmetic (onIntegers : Int → Int → Int) (onFloats : Float → Float → Float)
    (left right : Value) : (arithmetic onIntegers onFloats left right).isReference = false := by
  unfold arithmetic
  repeat' split
  all_goals first | rfl | (dsimp only; split <;> rfl)

theorem isReference_of_joinTexts {left right : String} {value : Value}
    (joined : joinTexts left right = .ok value) : value.isReference = false := by
  unfold joinTexts at joined
  dsimp only at joined
  split at joined
  · cases joined
  · cases joined
    rfl

theorem BinaryOperator.isReference_of_apply {heap : Heap} {operator : BinaryOperator}
    {left right value : Value} (applied : operator.apply heap left right = .ok value) :
    value.isReference = false := by
  have whole {compute : Int64 → Int64 → Int64}
      (divided : wholeDivision compute left right = .ok value) : value.isReference = false := by
    unfold wholeDivision at divided
    dsimp only at divided
    split at divided <;> cases divided
    rfl
  cases operator
  case add =>
    simp only [BinaryOperator.apply] at applied
    split at applied
    · exact isReference_of_joinTexts applied
    · split at applied <;> cases applied
      exact isReference_arithmetic _ _ _ _
  case integerDivide => exact whole applied
  case modulo => exact whole applied
  case concatenate => exact isReference_of_joinTexts applied
  case divide =>
    simp only [BinaryOperator.apply] at applied
    split at applied <;> cases applied
    rfl
  case subtract =>
    cases applied
    exact isReference_arithmetic _ _ _ _
  case multiply =>
    cases applied
    exact isReference_arithmetic _ _ _ _
  case conjunction | disjunction | exclusiveDisjunction =>
    cases applied
    unfold bitwise
    split <;> rfl
  all_goals
    simp only [BinaryOperator.apply, Except.ok.injEq] at applied
    rw [← applied]
    rfl

theorem Heap.isReference_coerceTo {heap : Heap} {type : Option DeclaredType} {value : Value}
    (plain : value.isReference = false) : (heap.coerceTo type value).isReference = false := by
  unfold Heap.coerceTo Heap.coerce
  repeat' split
  all_goals first | rfl | exact plain

theorem ScalarRoutine.isReference_of_compute {heap : Heap} {arguments : List Value}
    {routine : ScalarRoutine} {value : Value}
    (computed : routine.compute heap arguments = .ok value) : value.isReference = false := by
  have repeated {character : Char} {count : Int64}
      (done : repeatCharacter character count = .ok value) : value.isReference = false := by
    unfold repeatCharacter at done
    split at done <;> cases done
    rfl
  cases routine
  case character | characterCode | toByte =>
    simp only [compute] at computed
    split at computed <;> cases computed
    rfl
  case middle =>
    simp only [compute] at computed
    cases cut : TextFunction.middle (heap.text (argument arguments 0))
      (argument arguments 1).toInteger.toInt
      ((givenArgument? arguments 2).map fun value => value.toInteger.toInt) with
    | error fault => simp [cut, Except.map] at computed
    | ok text =>
        simp only [cut, Except.map, Except.ok.injEq] at computed
        rw [← computed]
        rfl
  case spaces => exact repeated computed
  case repeated => exact repeated computed
  case upperBound =>
    simp only [compute, lastIndex] at computed
    split at computed <;> cases computed <;> rfl
  case leadingNumber =>
    simp only [compute, Except.ok.injEq] at computed
    rw [← computed]
    exact Value.isReference_toNumber _
  case absolute =>
    simp only [compute, Except.ok.injEq] at computed
    rw [← computed]
    unfold magnitude
    split <;> rfl
  all_goals
    simp only [compute, Except.ok.injEq] at computed
    rw [← computed]
    rfl

/-! ## Separate heaps -/

namespace Heap

private theorem size_le_of_kept {α : Type} {earlier later : Array α}
    (kept : ∀ place, place < earlier.size → later[place]? = earlier[place]?) :
    earlier.size ≤ later.size := by
  apply Nat.le_of_not_lt
  intro fewer
  have same := kept later.size fewer
  rw [Array.getElem?_eq_none (Nat.le_refl _), Array.getElem?_eq_getElem fewer] at same
  cases same

theorem shrink_eq_of_kept {α : Type} {earlier later : Array α}
    (kept : ∀ place, place < earlier.size → later[place]? = earlier[place]?) :
    later.shrink earlier.size = earlier := by
  rw [Array.shrink_eq_take]
  apply Array.ext_getElem?
  intro place
  rcases Nat.lt_or_ge place earlier.size with inside | outside
  · rw [← kept place inside, Array.take_eq_extract, Array.getElem?_extract_of_lt (by
      have := size_le_of_kept kept
      omega)]
    simp
  · rw [Array.getElem?_eq_none (by simp; omega), Array.getElem?_eq_none outside]

end Heap

/-- Lists and maps of a heap that are set apart from all others. -/
structure Reserve where
  heap : Heap
  lists : Nat → Prop
  maps : Nat → Prop

def Heap.reserve (heap : Heap) : Reserve where
  heap := heap
  lists place := place < heap.lists.size
  maps place := place < heap.maps.size

namespace Reserve

def IsApart (base : Reserve) : Value → Prop
  | .list place => ¬ base.lists place
  | .map place => ¬ base.maps place
  | _ => True

theorem isApart_of_not_isReference {base : Reserve} {value : Value}
    (plain : value.isReference = false) : base.IsApart value := by
  cases value with
  | list place => cases plain
  | map place => cases plain
  | _ => trivial

theorem isApart_getD {base : Reserve} {values : List Value}
    (areApart : ∀ value ∈ values, base.IsApart value) (position : Nat) :
    base.IsApart (values.getD position .null) := by
  rw [List.getD_eq_getElem?_getD]
  cases found : values[position]? with
  | none => trivial
  | some value => exact areApart value (List.mem_of_getElem? found)

/-- A heap has kept a reserve, and nothing else in it refers to the reserve. -/
structure Separates (base : Reserve) (heap : Heap) : Prop where
  lists : ∀ place, base.lists place → heap.lists[place]? = base.heap.lists[place]?
  maps : ∀ place, base.maps place → heap.maps[place]? = base.heap.maps[place]?
  lists_lt : ∀ place, base.lists place → place < heap.lists.size
  maps_lt : ∀ place, base.maps place → place < heap.maps.size
  lists_size_le : base.heap.lists.size ≤ heap.lists.size
  maps_size_le : base.heap.maps.size ≤ heap.maps.size
  items : ∀ place, ¬ base.lists place → ∀ value ∈ heap.list place, base.IsApart value
  entries : ∀ place, ¬ base.maps place → ∀ key value,
    (heap.map place).get? key = some value → base.IsApart value

namespace Separates

variable {base : Reserve} {heap : Heap}

theorem not_lists_size (separate : base.Separates heap) : ¬ base.lists heap.lists.size :=
  fun inside => Nat.lt_irrefl _ (separate.lists_lt _ inside)

theorem not_maps_size (separate : base.Separates heap) : ¬ base.maps heap.maps.size :=
  fun inside => Nat.lt_irrefl _ (separate.maps_lt _ inside)

theorem isApart_of_mem_values (separate : base.Separates heap) {place : Nat}
    (outside : ¬ base.maps place) {value : Value} (member : value ∈ (heap.map place).values) :
    base.IsApart value := by
  rw [values_eq_map_toList] at member
  rcases List.mem_map.1 member with ⟨⟨key, found⟩, inMap, rfl⟩
  exact separate.entries place outside key found (Std.TreeMap.mem_toList_iff_getElem?_eq_some.1 inMap)

/-! ### All places of an earlier heap -/

theorem refl (heap : Heap) : heap.reserve.Separates heap where
  lists _ _ := rfl
  maps _ _ := rfl
  lists_lt _ inside := inside
  maps_lt _ inside := inside
  lists_size_le := Nat.le_refl _
  maps_size_le := Nat.le_refl _
  items place outside value member := by
    have outside : ¬ place < heap.lists.size := outside
    simp [Heap.list, Array.getD, outside] at member
  entries place outside key value found := by
    have outside : ¬ place < heap.maps.size := outside
    simp [Heap.map, Array.getD, outside] at found

/-- What is left of a separate heap without its new places is the earlier heap. -/
theorem restrictTo_eq {earlier : Heap} (separate : earlier.reserve.Separates heap) :
    heap.restrictTo earlier = earlier := by
  rw [Heap.restrictTo, Heap.shrink_eq_of_kept separate.lists,
    Heap.shrink_eq_of_kept separate.maps]

/-! ### Allocation -/

theorem newList (separate : base.Separates heap) (items : Array Value)
    (apart : ∀ value ∈ items, base.IsApart value) :
    base.Separates (heap.newList items).2 ∧ base.IsApart (heap.newList items).1 := by
  refine ⟨⟨?_, separate.maps, ?_, separate.maps_lt, ?_, separate.maps_size_le, ?_,
    separate.entries⟩, separate.not_lists_size⟩
  · intro place inside
    have := separate.lists_lt place inside
    rw [← separate.lists place inside, Heap.newList, Array.getElem?_push, if_neg (by omega)]
  · intro place inside
    have := separate.lists_lt place inside
    simp only [Heap.newList, Array.size_push]
    omega
  · simpa [Heap.newList] using Nat.le_succ_of_le separate.lists_size_le
  · intro place outside value member
    simp only [Heap.newList, Heap.list, Array.getD_eq_getD_getElem?, Array.getElem?_push] at member
    split at member
    · exact apart value member
    · refine separate.items place outside value ?_
      simpa only [Heap.list, Array.getD_eq_getD_getElem?] using member

theorem newMap (separate : base.Separates heap) {entries : Std.TreeMap String Value}
    (apart : ∀ key value, entries.get? key = some value → base.IsApart value) :
    base.Separates (heap.newMap entries).2 ∧ base.IsApart (heap.newMap entries).1 := by
  refine ⟨⟨separate.lists, ?_, separate.lists_lt, ?_, separate.lists_size_le, ?_, separate.items,
    ?_⟩, separate.not_maps_size⟩
  · intro place inside
    have := separate.maps_lt place inside
    rw [← separate.maps place inside, Heap.newMap, Array.getElem?_push, if_neg (by omega)]
  · intro place inside
    have := separate.maps_lt place inside
    simp only [Heap.newMap, Array.size_push]
    omega
  · simpa [Heap.newMap] using Nat.le_succ_of_le separate.maps_size_le
  · intro place outside key value found
    simp only [Heap.newMap, Heap.map, Array.getD_eq_getD_getElem?, Array.getElem?_push] at found
    split at found
    · exact apart key value found
    · refine separate.entries place outside key value ?_
      simpa only [Heap.map, Array.getD_eq_getD_getElem?] using found

/-! ### Writes to other places -/

theorem modifyList (separate : base.Separates heap) {place : Nat} (outside : ¬ base.lists place)
    {change : Array Value → Array Value}
    (apart : ∀ value ∈ change (heap.list place), base.IsApart value) :
    base.Separates (heap.modifyList place change) := by
  refine ⟨?_, separate.maps, ?_, separate.maps_lt, ?_, separate.maps_size_le, ?_, separate.entries⟩
  · intro other inside
    rw [← separate.lists other inside]
    simp only [Heap.modifyList, Array.getElem?_modify]
    rw [if_neg (by rintro rfl; exact outside inside)]
  · intro other inside
    rw [Heap.modifyList, Array.size_modify]
    exact separate.lists_lt other inside
  · rw [Heap.modifyList, Array.size_modify]
    exact separate.lists_size_le
  · intro other outsideToo value member
    simp only [Heap.modifyList, Heap.list, Array.getD_eq_getD_getElem?, Array.getElem?_modify]
      at member
    split at member
    · rename_i same
      subst same
      cases present : heap.lists[place]? with
      | none => simp [present] at member
      | some items =>
          refine apart value ?_
          simpa [Heap.list, Array.getD_eq_getD_getElem?, present] using member
    · refine separate.items other outsideToo value ?_
      simpa only [Heap.list, Array.getD_eq_getD_getElem?] using member

theorem modifyMap (separate : base.Separates heap) {place : Nat} (outside : ¬ base.maps place)
    {change : Std.TreeMap String Value → Std.TreeMap String Value}
    (apart : ∀ key value, (change (heap.map place)).get? key = some value → base.IsApart value) :
    base.Separates (heap.modifyMap place change) := by
  refine ⟨separate.lists, ?_, separate.lists_lt, ?_, separate.lists_size_le, ?_, separate.items, ?_⟩
  · intro other inside
    rw [← separate.maps other inside]
    simp only [Heap.modifyMap, Array.getElem?_modify]
    rw [if_neg (by rintro rfl; exact outside inside)]
  · intro other inside
    rw [Heap.modifyMap, Array.size_modify]
    exact separate.maps_lt other inside
  · rw [Heap.modifyMap, Array.size_modify]
    exact separate.maps_size_le
  · intro other outsideToo key value found
    simp only [Heap.modifyMap, Heap.map, Array.getD_eq_getD_getElem?, Array.getElem?_modify]
      at found
    split at found
    · rename_i same
      subst same
      cases present : heap.maps[place]? with
      | none => simp [present] at found
      | some entries =>
          refine apart key value ?_
          simpa [Heap.map, Array.getD_eq_getD_getElem?, present] using found
    · refine separate.entries other outsideToo key value ?_
      simpa only [Heap.map, Array.getD_eq_getD_getElem?] using found

/-! ### Reads -/

theorem isApart_getD (separate : base.Separates heap) {place : Nat}
    (outside : ¬ base.lists place) (position : Nat) :
    base.IsApart ((heap.list place).getD position .null) := by
  rw [Array.getD_eq_getD_getElem?]
  cases present : (heap.list place)[position]? with
  | none => trivial
  | some value => exact separate.items place outside value (Array.mem_of_getElem? present)

theorem isApart_getD_map (separate : base.Separates heap) {place : Nat} (outside : ¬ base.maps place)
    (key : String) : base.IsApart ((heap.map place).getD key .null) := by
  rw [Std.TreeMap.getD_eq_getD_getElem?]
  cases found : (heap.map place)[key]? with
  | none => trivial
  | some value => exact separate.entries place outside key value found

theorem isApart_indexValue (separate : base.Separates heap) :
    ∀ (indices : List Value) {target value : Value}, base.IsApart target →
      indexValue heap target indices = .ok value → base.IsApart value
  | [], target, value, apart, read => by
      rw [indexValue] at read
      cases read
      exact apart
  | index :: rest, target, value, apart, read => by
      unfold indexValue at read
      split at read
      · rename_i impossible
        cases impossible
      · rename_i place _ _ same
        cases same
        split at read
        · exact isApart_indexValue separate rest (separate.isApart_getD apart _) read
        · cases read
      · rename_i place _ _ same
        cases same
        cases read
        exact separate.isApart_getD_map apart _
      · cases read

theorem isApart_of_iterationItems (separate : base.Separates heap) {container : Value}
    (apart : base.IsApart container) {items : List Value}
    (listed : iterationItems heap container = .ok items) :
    ∀ value ∈ items, base.IsApart value := by
  unfold iterationItems at listed
  split at listed <;> cases listed
  · exact fun value member => separate.items _ apart value (Array.mem_toList_iff.1 member)
  · intro value member
    obtain ⟨key, _, rfl⟩ := List.mem_map.1 member
    trivial
  · exact fun value member => by cases member
  · exact fun value member => by cases member

theorem isApart_coerceTo {value : Value} (apart : base.IsApart value)
    (type : Option DeclaredType) : base.IsApart (heap.coerceTo type value) := by
  cases reference : value.isReference with
  | false => exact isApart_of_not_isReference (Heap.isReference_coerceTo reference)
  | true =>
      have unchanged : heap.coerceTo type value = value := by
        cases value <;> first | (cases type <;> rfl) | simp [Value.isReference] at reference
      rw [unchanged]
      exact apart

/-! ### Copies -/

mutual

theorem build (base : Reserve) : ∀ (datum : Datum) {heap : Heap}, base.Separates heap →
    base.Separates (datum.build heap).2 ∧ base.IsApart (datum.build heap).1
  | .list items, heap, separate => by
      have built := buildAll base items separate #[] (by simp)
      exact built.1.newList _ built.2
  | .map keys values, heap, separate => by
      have built := buildAll base values separate #[] (by simp)
      refine built.1.newMap fun key value found => built.2 value ?_
      exact Array.mem_toList_iff.1 (List.of_mem_zip (mem_of_get?_ofList found)).2
  | .integer _, _, separate | .float _, _, separate | .text _, _, separate
  | .boolean _, _, separate | .null, _, separate | .object .., _, separate
  | .unresolved, _, separate => ⟨separate, trivial⟩

theorem buildAll (base : Reserve) : ∀ (data : List Datum) {heap : Heap}, base.Separates heap →
    ∀ (done : Array Value), (∀ value ∈ done, base.IsApart value) →
    base.Separates (Datum.buildAll data heap done).2 ∧
      ∀ value ∈ (Datum.buildAll data heap done).1, base.IsApart value
  | [], _, separate, _, apart => ⟨separate, apart⟩
  | datum :: rest, heap, separate, done, apart => by
      have built := build base datum separate
      refine buildAll base rest built.1 _ fun value member => ?_
      rcases Array.mem_push.1 member with before | rfl
      · exact apart value before
      · exact built.2

end

theorem copy (separate : base.Separates heap) (value : Value) :
    base.Separates (heap.copy value).2 ∧ base.IsApart (heap.copy value).1 :=
  build base (heap.contents value) separate

/-! ### Arrays -/

theorem buildMany {build : Heap → Value × Heap}
    (keeps : ∀ {heap : Heap}, base.Separates heap →
      base.Separates (build heap).2 ∧ base.IsApart (build heap).1) :
    ∀ (count : Nat) {heap : Heap}, base.Separates heap → ∀ (items : Array Value),
      (∀ value ∈ items, base.IsApart value) →
      base.Separates (MacroSandbox.buildMany build count heap items).2 ∧
        ∀ value ∈ (MacroSandbox.buildMany build count heap items).1, base.IsApart value
  | 0, _, separate, _, apart => ⟨separate, apart⟩
  | count + 1, heap, separate, items, apart => by
      have built := keeps separate
      refine buildMany keeps count built.1 _ fun value member => ?_
      rcases Array.mem_push.1 member with before | rfl
      · exact apart value before
      · exact built.2

theorem buildArray (type : Option DeclaredType) :
    ∀ (dimensions : List Int64) {heap : Heap}, base.Separates heap →
      base.Separates (MacroSandbox.buildArray type dimensions heap).2 ∧
        base.IsApart (MacroSandbox.buildArray type dimensions heap).1
  | [], _, separate => ⟨separate, isApart_of_not_isReference (isReference_initial type)⟩
  | length :: rest, heap, separate => by
      have built := buildMany (fun separate => buildArray type rest separate) length.toInt.toNat
        separate #[] (by simp)
      exact built.1.newList _ built.2

theorem newArray (separate : base.Separates heap) (dimensions : List Int64)
    (type : Option DeclaredType) :
    base.Separates (MacroSandbox.newArray heap dimensions type).2 ∧
      ∀ value, (MacroSandbox.newArray heap dimensions type).1 = .ok value →
        base.IsApart value := by
  unfold MacroSandbox.newArray
  dsimp only
  split
  · split
    · have built := separate.buildArray type dimensions
      refine ⟨built.1, fun value made => ?_⟩
      cases made
      exact built.2
    · exact ⟨separate, fun value made => by cases made⟩
  · exact ⟨separate, fun value made => by cases made⟩

def SlotIsApart (base : Reserve) : Slot → Prop
  | .entry place _ => ¬ base.maps place
  | .item place _ | .nested place _ _ => ¬ base.lists place

theorem slotIsApart_of_growingSlot {target : Value} (apart : base.IsApart target)
    {indices : List Value} {slot : Slot} (found : growingSlot heap target indices = .ok slot) :
    SlotIsApart base slot := by
  unfold growingSlot at found
  split at found
  · cases found
    exact apart
  · split at found
    · rename_i index
      cases position : growingIndex index with
      | error fault => simp [position, Except.map] at found
      | ok position =>
          rw [position, Except.map] at found
          cases found
          exact apart
    · rename_i first second
      split at found
      · rename_i row _
        cases position : growingIndex second with
        | error fault => simp [position, Except.map] at found
        | ok position =>
            rw [position, Except.map] at found
            cases found
            exact apart
      · cases found
    · cases found
  · cases found

theorem slotIsApart_of_elementSlot (separate : base.Separates heap) :
    ∀ (indices : List Value) {target : Value} {slot : Slot}, base.IsApart target →
      elementSlot heap target indices = .ok slot → SlotIsApart base slot
  | [], target, slot, apart, found => by cases target <;> cases found
  | [index], target, slot, apart, found => by
      cases target with
      | list place =>
          rw [elementSlot] at found
          cases position : elementIndex (heap.list place) index with
          | error fault => simp [position, Except.map] at found
          | ok position =>
              rw [position, Except.map] at found
              cases found
              exact apart
      | _ => cases found
  | index :: next :: rest, target, slot, apart, found => by
      cases target with
      | list place =>
          rw [elementSlot] at found
          split at found
          · exact separate.slotIsApart_of_elementSlot (next :: rest)
              (separate.isApart_getD apart _) found
          · cases found
      | _ => cases found

theorem writeItem (separate : base.Separates heap) {place : Nat}
    (outside : ¬ base.lists place) (position : Nat) {value : Value}
    (apart : base.IsApart value) : base.Separates (heap.writeItem place position value) := by
  refine separate.modifyList outside fun other member => ?_
  rcases Array.mem_or_eq_of_mem_setIfInBounds member with before | rfl
  · rcases Array.mem_append.1 before with old | zero
    · exact separate.items place outside other old
    · rw [(Array.mem_replicate.1 zero).2]
      trivial
  · exact apart

theorem ensureRow (separate : base.Separates heap) {place : Nat}
    (outside : ¬ base.lists place) (row : Nat) :
    base.Separates (heap.ensureRow place row).2 ∧
      ¬ base.lists (heap.ensureRow place row).1 := by
  have built := buildMany (fun separate => separate.newList #[] (by simp))
    (row + 1 - (heap.list place).size) separate #[] (by simp)
  unfold Heap.ensureRow
  dsimp only
  generalize MacroSandbox.buildMany (fun heap => heap.newList #[])
    (row + 1 - (heap.list place).size) heap #[] = rows at built
  rcases rows with ⟨rows, heap⟩
  dsimp only at built ⊢
  have grown : base.Separates (heap.modifyList place (· ++ rows)) := by
    refine built.1.modifyList outside fun value member => ?_
    rcases Array.mem_append.1 member with old | new
    · exact built.1.items place outside value old
    · exact built.2 value new
  split
  · rename_i rowPlace isList
    have apart := grown.isApart_getD outside row
    rw [isList] at apart
    exact ⟨grown, apart⟩
  · have fresh := grown.newList #[] (by simp)
    refine ⟨fresh.1.modifyList outside fun value member => ?_, grown.not_lists_size⟩
    rcases Array.mem_or_eq_of_mem_setIfInBounds member with old | rfl
    · exact fresh.1.items place outside value old
    · exact fresh.2

theorem write (separate : base.Separates heap) {slot : Slot} (outside : SlotIsApart base slot)
    {value : Value} (apart : base.IsApart value) : base.Separates (heap.write slot value) := by
  cases slot with
  | entry place key =>
      refine separate.modifyMap outside fun other found present => ?_
      simp only [Std.TreeMap.get?_eq_getElem?, Std.TreeMap.getElem?_insert] at present
      split at present
      · cases present
        exact apart
      · exact separate.entries place outside other found present
  | item place position => exact separate.writeItem outside position apart
  | nested place row position =>
      have ensured := separate.ensureRow outside row
      simp only [Heap.write]
      exact ensured.1.writeItem ensured.2 position apart

/-! ### Library functions -/

theorem apply (separate : base.Separates heap) (routine : PureRoutine) {arguments : List Value}
    (apart : ∀ value ∈ arguments, base.IsApart value) :
    base.Separates (routine.apply arguments heap).2 ∧
      ∀ value, (routine.apply arguments heap).1 = .ok value → base.IsApart value := by
  cases routine with
  | scalar routine =>
      refine ⟨separate, fun value computed => ?_⟩
      exact isApart_of_not_isReference (routine.isReference_of_compute computed)
  | split =>
      let pieces := Text.splitOn (ScalarRoutine.delimiter heap arguments)
        (heap.text (argument arguments 0))
      have texts : ∀ value ∈ pieces.map Value.text, base.IsApart value := by
        intro value member
        obtain ⟨piece, _, rfl⟩ := Array.mem_map.1 member
        trivial
      have made := separate.newList _ texts
      exact ⟨made.1, fun value computed => Except.ok.inj computed ▸ made.2⟩
  | array =>
      have made := separate.newList arguments.toArray (by simpa using apart)
      exact ⟨made.1, fun value computed => Except.ok.inj computed ▸ made.2⟩

end Separates

end Reserve

end MacroSandbox
