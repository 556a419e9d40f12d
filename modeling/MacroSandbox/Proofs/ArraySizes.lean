import MacroSandbox.Proofs.FlatCopies

/-! How large new arrays are.

What is compared with the limit is the product of all dimensions, which is the number of the innermost
elements. The lists around them have slots, too, and they are built before it turns out that a later
dimension is empty: then the product is zero, however large they are. -/

namespace MacroSandbox

/-! ## Slots -/

namespace Datum

mutual

/-- How many slots the lists in a datum have, those of nested lists included. -/
def slots : Datum → Nat
  | .list items => items.length + slotsOfAll items
  | .map _ values => slotsOfAll values
  | _ => 0

def slotsOfAll : List Datum → Nat
  | [] => 0
  | datum :: rest => datum.slots + slotsOfAll rest

end

/-- What an array holds that is nested as deep as it has dimensions. -/
def nested (element : Datum) : (sizes : List Nat) → Datum
  | [] => element
  | size :: rest => .list (List.replicate size (nested element rest))

theorem areSound_replicate {datum : Datum} (sound : datum.IsSound) (count : Nat) :
    AreSound (List.replicate count datum) := by
  rw [areSound_iff]
  rintro other member
  obtain rfl := List.eq_of_mem_replicate member
  exact sound

theorem isSound_nested {element : Datum} (sound : element.IsSound) :
    ∀ sizes : List Nat, (nested element sizes).IsSound
  | [] => sound
  | size :: rest => by
      rw [nested, IsSound]
      exact areSound_replicate (isSound_nested sound rest) size

theorem slotsOfAll_replicate (count : Nat) (datum : Datum) :
    slotsOfAll (List.replicate count datum) = count * datum.slots := by
  induction count with
  | zero => simp [slotsOfAll]
  | succ count induction =>
      rw [List.replicate_succ, slotsOfAll, induction, Nat.succ_mul, Nat.add_comm]

end Datum

/-- How many slots an array has in all: those of the outermost list, and for each of them those of what
is in it. -/
def slotTotal : (sizes : List Nat) → Nat
  | [] => 0
  | size :: rest => size * (1 + slotTotal rest)

theorem Datum.slots_nested {element : Datum} (plain : element.slots = 0) :
    ∀ sizes : List Nat, (Datum.nested element sizes).slots = slotTotal sizes
  | [] => plain
  | size :: rest => by
      rw [Datum.nested, Datum.slots, Datum.slotsOfAll_replicate, List.length_replicate,
        Datum.slots_nested plain rest, slotTotal, Nat.mul_add, Nat.mul_one]

/-! ## Building -/

/-- The sizes of the lists of an array with these dimensions. A negative dimension is empty. -/
def sizesOf (dimensions : List Int64) : List Nat :=
  dimensions.map fun length => length.toInt.toNat

namespace Heap

theorem contents_build {datum : Datum} (sound : datum.IsSound) (heap : Heap) :
    (datum.build heap).2.contents (datum.build heap).1 = datum := by
  have shows := (shows_build datum sound (KeepsBut.refl heap none).sizes).1
  have deepEnough := depthBound_build datum heap
  exact contentsWithin_of_shows datum shows (by omega)

end Heap

theorem buildMany_eq_buildAll {build : Heap → Value × Heap} {datum : Datum}
    (builds : ∀ heap, build heap = datum.build heap) :
    ∀ (count : Nat) (heap : Heap) (items : Array Value),
      buildMany build count heap items =
        Datum.buildAll (List.replicate count datum) heap items
  | 0, heap, items => by rw [buildMany, List.replicate_zero, Datum.buildAll]
  | count + 1, heap, items => by
      rw [buildMany, List.replicate_succ, Datum.buildAll, builds]
      exact buildMany_eq_buildAll builds count _ _

theorem buildArray_eq_build (type : Option DeclaredType) :
    ∀ (dimensions : List Int64) (heap : Heap),
      buildArray type dimensions heap =
        (Datum.nested (Heap.contents {} (DeclaredType.initial type)) (sizesOf dimensions)).build heap
  | [], heap => by
      rw [buildArray, sizesOf, List.map_nil, Datum.nested,
        Heap.build_contents (isReference_initial type)]
  | length :: rest, heap => by
      rw [buildArray, sizesOf, List.map_cons, Datum.nested, Datum.build,
        buildMany_eq_buildAll (buildArray_eq_build type rest)]
      rfl

theorem slots_buildArray (type : Option DeclaredType) (dimensions : List Int64) (heap : Heap) :
    ((buildArray type dimensions heap).2.contents (buildArray type dimensions heap).1).slots =
      slotTotal (sizesOf dimensions) := by
  have element : (Heap.contents {} (DeclaredType.initial type)).slots = 0 := by
    rcases type with - | type
    · rfl
    · cases type <;> rfl
  have sound : (Heap.contents {} (DeclaredType.initial type)).IsSound :=
    Heap.isSound_contentsWithin _ _ _
  rw [buildArray_eq_build, Heap.contents_build (Datum.isSound_nested sound _),
    Datum.slots_nested element]

/-! ## The limit -/

theorem eq_of_slotCount? {dimensions : List Int64} {product count : Nat}
    (counted : slotCount? dimensions product = some count) :
    count = product * (sizesOf dimensions).prod := by
  induction dimensions generalizing product with
  | nil =>
      cases counted
      simp [sizesOf]
  | cons length rest induction =>
      rw [slotCount?] at counted
      split at counted
      · rename_i size allowed
        rw [allocation?] at allowed
        split at allowed
        · cases allowed
          split at counted
          · rw [induction counted, sizesOf, sizesOf, List.map_cons, List.prod_cons, Nat.mul_assoc]
          · cases counted
        · cases allowed
      · cases counted

theorem newArray_eq_buildArray {dimensions : List Int64} {count : Nat}
    (counted : slotCount? dimensions 1 = some count) (small : count ≤ maxAllocation) (heap : Heap)
    (type : Option DeclaredType) :
    newArray heap dimensions type =
      (.ok (buildArray type dimensions heap).1, (buildArray type dimensions heap).2) := by
  unfold newArray
  rw [counted]
  exact if_pos small

theorem eq_buildArray_of_newArray {heap later : Heap} {dimensions : List Int64}
    {type : Option DeclaredType} {array : Value}
    (made : newArray heap dimensions type = (.ok array, later)) :
    buildArray type dimensions heap = (array, later) ∧
      (sizesOf dimensions).prod ≤ maxAllocation := by
  unfold newArray at made
  dsimp only at made
  split at made
  · rename_i count counted
    split at made
    · rename_i small
      cases made
      rw [eq_of_slotCount? counted, Nat.one_mul] at small
      exact ⟨rfl, small⟩
    · cases made
  · cases made

def filledSizes (sizes : List Nat) : List Nat :=
  sizes.takeWhile (0 < ·)

theorem filledSizes_eq_self {sizes : List Nat} (filled : ∀ size ∈ sizes, 0 < size) :
    filledSizes sizes = sizes :=
  List.takeWhile_eq_self_iff.2 fun size member => decide_eq_true (filled size member)

/-- Every list of an array is as long as the product of the sizes up to its own at most, and behind an
empty dimension nothing is built. The product `outer` is that of the sizes in front of these. -/
theorem mul_slotTotal_le {limit : Nat} (sizes : List Nat) (outer : Nat)
    (small : outer * (filledSizes sizes).prod ≤ limit) :
    outer * slotTotal sizes ≤ limit * sizes.length := by
  induction sizes generalizing outer with
  | nil => simp [slotTotal]
  | cons size rest induction =>
      rcases Nat.eq_zero_or_pos size with rfl | positive
      · simp [slotTotal]
      · have inner : outer * size * (filledSizes rest).prod ≤ limit := by
          simpa [filledSizes, positive, Nat.mul_assoc] using small
        have filled : 0 < (filledSizes rest).prod := by
          refine List.prod_pos fun other member => ?_
          rw [filledSizes] at member
          simpa using List.mem_takeWhile_imp member
        calc outer * slotTotal (size :: rest)
            = outer * size + outer * size * slotTotal rest := by
              rw [slotTotal, ← Nat.mul_assoc, Nat.mul_add, Nat.mul_one]
          _ ≤ limit + limit * rest.length :=
              Nat.add_le_add (Nat.le_trans (Nat.le_mul_of_pos_right _ filled) inner)
                (induction (outer * size) inner)
          _ = limit * (size :: rest).length := by
              rw [List.length_cons, Nat.mul_succ, Nat.add_comm]

/-- A new array has the slots that its dimensions say. They are at most as many as the limit for each
dimension if no dimension is empty, or if the lists in front of the first empty one are within the
limit. -/
theorem newArray_slots {heap later : Heap} {dimensions : List Int64} {type : Option DeclaredType}
    {array : Value} (made : newArray heap dimensions type = (.ok array, later)) :
    (later.contents array).slots = slotTotal (sizesOf dimensions) ∧
      ((∀ length ∈ dimensions, 0 < length.toInt) →
        (later.contents array).slots ≤ maxAllocation * dimensions.length) ∧
      ((filledSizes (sizesOf dimensions)).prod ≤ maxAllocation →
        (later.contents array).slots ≤ maxAllocation * dimensions.length) := by
  obtain ⟨built, small⟩ := eq_buildArray_of_newArray made
  have total := slots_buildArray type dimensions heap
  rw [built] at total
  dsimp only at total
  have bounded (filled : (filledSizes (sizesOf dimensions)).prod ≤ maxAllocation) :
      (later.contents array).slots ≤ maxAllocation * dimensions.length := by
    have product : 1 * (filledSizes (sizesOf dimensions)).prod ≤ maxAllocation := by
      rwa [Nat.one_mul]
    have least := mul_slotTotal_le (sizesOf dimensions) 1 product
    rwa [Nat.one_mul, ← total, sizesOf, List.length_map] at least
  refine ⟨total, fun positive => bounded ?_, bounded⟩
  rwa [filledSizes_eq_self]
  intro size member
  obtain ⟨length, inside, rfl⟩ := List.mem_map.1 member
  exact Int.lt_toNat.2 (positive length inside)

/-- Two rows of three columns have eight slots. -/
theorem newArray_slots_grid :
    ∃ array later, newArray {} [2, 3] none = (.ok array, later) ∧
      (later.contents array).slots = 8 ∧ (later.contents array).slots ≤ maxAllocation * 2 := by
  have counted : slotCount? [2, 3] 1 = some 6 := rfl
  have made := newArray_eq_buildArray counted (by decide) {} none
  have positive : ∀ length ∈ ([2, 3] : List Int64), 0 < length.toInt := by simp
  obtain ⟨total, bounded, _⟩ := newArray_slots made
  exact ⟨_, _, made, total, bounded positive⟩

/-- Forty-eight lists of a million empty rows are made, for they have no elements. -/
theorem newArray_exceeds_limit :
    ∃ array later, newArray {} [48, 1048576, 0] none = (.ok array, later) ∧
      maxAllocation * 3 < (later.contents array).slots := by
  have counted : slotCount? [48, 1048576, 0] 1 = some 0 := by decide
  have total := slots_buildArray none [48, 1048576, 0] {}
  refine ⟨_, _, newArray_eq_buildArray counted (Nat.zero_le _) {} none, ?_⟩
  rw [total]
  decide

end MacroSandbox
