import MacroSandbox.Heap
import MacroSandbox.Limits

/-! Arrays: lists that a declaration makes, and the reading and writing of their elements. Indices
count from zero. -/

namespace MacroSandbox

/-! ## Declared arrays -/

def slotCount? : List Int64 → (product : Nat) → Option Nat
  | [], product => some product
  | length :: rest, product =>
      match allocation? length with
      | some size => if product * size < UInt64.size then slotCount? rest (product * size) else none
      | none => none

@[specialize] def buildMany (build : Heap → Value × Heap) : (count : Nat) → Heap → Array Value →
    Array Value × Heap
  | 0, heap, items => (items, heap)
  | count + 1, heap, items =>
      let (item, heap) := build heap
      buildMany build count heap (items.push item)

def buildArray (type : Option DeclaredType) : List Int64 → Heap → Value × Heap
  | [], heap => (DeclaredType.initial type, heap)
  | length :: rest, heap =>
      let (items, heap) := buildMany (buildArray type rest) length.toInt.toNat heap #[]
      heap.newList items

def newArray (heap : Heap) (dimensions : List Int64) (type : Option DeclaredType) :
    Except Fault Value × Heap :=
  let refused := Fault.outOfMemory ("array dimensions [" ++
    String.intercalate ", " (dimensions.map fun length => toString length.toInt) ++
    "] are too large")
  match slotCount? dimensions 1 with
  | some count =>
      if count ≤ maxAllocation then
        let (array, heap) := buildArray type dimensions heap
        (.ok array, heap)
      else (.error refused, heap)
  | none => (.error refused, heap)

def dimensionOfBound (bound : Value) : Int64 :=
  let upper := bound.toInteger
  (if upper < -1 then -1 else upper) + 1

/-! ## Reading -/

def indexFault (index : Int64) : Fault :=
  .subscriptOutOfRange ("index " ++ toString index.toInt ++ " out of range")

def elementIndex (items : Array Value) (index : Value) : Except Fault Nat :=
  let position := index.toInteger
  if 0 ≤ position.toInt && position.toInt.toNat < items.size then .ok position.toInt.toNat
  else .error (indexFault position)

/-- The element of a list, through its nested lists, or the entry of a map. An entry that is missing
is null. -/
def indexValue (heap : Heap) : (target : Value) → (indices : List Value) → Except Fault Value
  | target, [] => .ok target
  | .list place, index :: rest =>
      match elementIndex (heap.list place) index with
      | .ok position => indexValue heap ((heap.list place).getD position .null) rest
      | .error fault => .error fault
  | .map place, key :: _ => .ok ((heap.map place).getD (heap.text key) .null)
  | other, _ :: _ => .error (.typeMismatch (other.kindName ++ " is not indexable"))

/-! ## Writing

A write first finds its slot, which may fail, and then stores the value, which cannot. -/

/-- Where a value can be stored: an entry of a map, an item of a list, or an item of a row of a list
of lists. -/
inductive Slot
  | entry (place : Nat) (key : String)
  | item (place position : Nat)
  | nested (place row position : Nat)
  deriving Repr, DecidableEq, Inhabited

def elementSlot (heap : Heap) : (target : Value) → (indices : List Value) → Except Fault Slot
  | .list _, [] => .error (.subscriptOutOfRange "missing index")
  | .list place, [index] => (elementIndex (heap.list place) index).map (Slot.item place)
  | .list place, index :: next :: rest =>
      match elementIndex (heap.list place) index with
      | .ok position => elementSlot heap ((heap.list place).getD position .null) (next :: rest)
      | .error fault => .error fault
  | other, _ => .error (.typeMismatch (other.kindName ++ " is not an array"))

def entrySlot (heap : Heap) (place : Nat) (indices : List Value) : Slot :=
  .entry place ((indices.head?.map heap.text).getD "")

def growingIndex (index : Value) : Except Fault Nat :=
  let position := index.toInteger
  if 0 ≤ position.toInt && position.toInt.toNat < maxAllocation then .ok position.toInt.toNat
  else .error (indexFault position)

/-- The slot of an element of an array that grows as needed, or of an entry of a map. Growing arrays
have one or two dimensions. -/
def growingSlot (heap : Heap) (target : Value) (indices : List Value) : Except Fault Slot :=
  match target with
  | .map place => .ok (entrySlot heap place indices)
  | .list place =>
      match indices with
      | [index] => (growingIndex index).map (Slot.item place)
      | [first, second] =>
          match growingIndex first with
          | .ok row => (growingIndex second).map (Slot.nested place row)
          | .error fault => .error fault
      | _ =>
          .error (.subscriptOutOfRange
            (toString indices.length ++ "-D array writes are not supported"))
  | other => .error (.typeMismatch (other.kindName ++ " is not an array"))

namespace Heap

def extendWithZeros (items : Array Value) (position : Nat) : Array Value :=
  items ++ Array.replicate (position + 1 - items.size) (.integer 0)

def writeItem (heap : Heap) (place position : Nat) (value : Value) : Heap :=
  heap.modifyList place fun items =>
    (extendWithZeros items position).setIfInBounds position value

/-- Adds empty rows until row `row` exists and makes it a list: the place of the row and the
heap. -/
def ensureRow (heap : Heap) (place row : Nat) : Nat × Heap :=
  let missing := row + 1 - (heap.list place).size
  let (rows, heap) := buildMany (fun heap => heap.newList #[]) missing heap #[]
  let heap := heap.modifyList place (· ++ rows)
  match (heap.list place).getD row .null with
  | .list rowPlace => (rowPlace, heap)
  | _ =>
      let rowPlace := heap.lists.size
      let (fresh, heap) := heap.newList #[]
      (rowPlace, heap.modifyList place fun items => items.setIfInBounds row fresh)

def write (heap : Heap) (slot : Slot) (value : Value) : Heap :=
  match slot with
  | .entry place key => heap.modifyMap place fun entries => entries.insert key value
  | .item place position => heap.writeItem place position value
  | .nested place row position =>
      let (rowPlace, heap) := heap.ensureRow place row
      heap.writeItem rowPlace position value

end Heap

/-! ## Iteration -/

/-- The values that a loop over a value goes through: the items of a list or the keys of a map. -/
def iterationItems (heap : Heap) : Value → Except Fault (List Value)
  | .list place => .ok (heap.list place).toList
  | .map place => .ok ((heap.map place).keys.map .text)
  | .null | .unresolved => .ok []
  | other => .error (.notIterable other.kindName)

end MacroSandbox
