import MacroSandbox.Heap
import MacroSandbox.Limits

/-! The memory that emulated code writes to: bytes at addresses. A memory is the moves that were
made to it, so writing is cheap, and what an address holds is settled when the memory is looked at.
-/

namespace MacroSandbox

/-! ## Moves -/

/-- Bytes for consecutive addresses from `address` on. -/
structure Move where
  address : Int64
  bytes : ByteArray

namespace Move

def last (move : Move) : Int :=
  move.address.toInt + move.bytes.size - 1

def byte? (move : Move) (address : Int) : Option UInt8 :=
  if move.address.toInt ≤ address then
    move.bytes.data[(address - move.address.toInt).toNat]?
  else none

end Move

def integerBytes (value : Int64) : ByteArray :=
  let bits := value.toUInt64
  ⟨#[bits.toUInt8, (bits >>> 8).toUInt8, (bits >>> 16).toUInt8, (bits >>> 24).toUInt8,
    (bits >>> 32).toUInt8, (bits >>> 40).toUInt8, (bits >>> 48).toUInt8, (bits >>> 56).toUInt8]⟩

/-- The move of `count` bytes of `source` to `destination`. Bytes past the last address are
dropped. -/
def moveOf (heap : Heap) (destination source count : Value) : Move :=
  let address := destination.toInteger
  let bytes := match source with
    | .integer value => integerBytes value
    | other => heap.bytes other
  let room := (Int64.maxValue.toInt - address.toInt + 1).toNat
  { address, bytes := bytes.extract 0 (min count.toInteger.toInt.toNat room) }

/-! ## Memory -/

/-- The moves so far. All of them have bytes. -/
structure Memory where
  moves : Array Move := #[]
  deriving Inhabited

namespace Memory

def write (memory : Memory) (move : Move) : Memory :=
  if move.bytes.isEmpty then memory else { moves := memory.moves.push move }

def merge (memory other : Memory) : Memory :=
  { moves := memory.moves ++ other.moves }

def byte? (memory : Memory) (address : Int) : Option UInt8 :=
  memory.moves.foldl (fun found move => (move.byte? address).or found) none

/-- What a memory holds after the moves of another one: what these wrote, and elsewhere what it held
before. -/
theorem byte?_merge (memory other : Memory) (address : Int) :
    (memory.merge other).byte? address = (other.byte? address).or (memory.byte? address) := by
  have later (moves : List Move) (found : Option UInt8) :
      moves.foldl (fun found move => (move.byte? address).or found) found =
        (moves.foldl (fun found move => (move.byte? address).or found) none).or found := by
    induction moves generalizing found with
    | nil => simp
    | cons move rest induction =>
        rw [List.foldl_cons, List.foldl_cons, induction, induction ((move.byte? address).or none)]
        simp [Option.or_assoc]
  simp only [byte?, merge, ← Array.foldl_toList, Array.toList_append, List.foldl_append]
  exact later _ _

def gap : UInt8 := 0x90

def range? (memory : Memory) : Option (Int × Int) :=
  let widen (range : Option (Int × Int)) (move : Move) : Option (Int × Int) :=
    match range with
    | none => some (move.address.toInt, move.last)
    | some (first, last) => some (min first move.address.toInt, max last move.last)
  memory.moves.foldl widen none

def denseImage (memory : Memory) (first last : Int) : ByteArray :=
  let put (image : ByteArray) (move : Move) : ByteArray :=
    move.bytes.copySlice 0 image (move.address.toInt - first).toNat move.bytes.size
  memory.moves.foldl put ⟨Array.replicate (last - first + 1).toNat gap⟩

def sparseImage (memory : Memory) : ByteArray :=
  let put (table : Std.TreeMap Int UInt8) (move : Move) : Std.TreeMap Int UInt8 :=
    (move.bytes.foldl (fun (table, address) byte => (table.insert address byte, address + 1))
      (table, move.address.toInt)).1
  ⟨(memory.moves.foldl put ∅).values.toArray⟩

def image (memory : Memory) : ByteArray :=
  match memory.range? with
  | none => ByteArray.empty
  | some (first, last) =>
      if (maxAllocation : Int) ≤ last - first then memory.sparseImage
      else memory.denseImage first last

end Memory

end MacroSandbox
