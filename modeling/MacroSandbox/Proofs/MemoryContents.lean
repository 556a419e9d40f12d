import Mathlib.Data.List.Induction
import MacroSandbox.Library.Host
import MacroSandbox.Loop.Machine
import MacroSandbox.Proofs.Running

/-! What emulated memory holds.

Bytes are moved to memory by calls of a library routine. The interpreter makes each move at once; the
loop machine collects its moves in a memory of its own, which is merged at the end. Either way an
address holds the byte that was moved there last, and no address is out of range. -/

namespace MacroSandbox

/-! ## Single moves -/

def Heap.movedBytes (heap : Heap) : Value → ByteArray
  | .integer value => integerBytes value
  | other => heap.bytes other

namespace Move

variable {move : Move} {address : Int}

theorem isSome_byte?_iff :
    (move.byte? address).isSome = true ↔ move.address.toInt ≤ address ∧ address ≤ move.last := by
  have size : move.bytes.data.size = move.bytes.size := rfl
  unfold byte? last
  split
  · rw [isSome_getElem?, size]
    omega
  · rename_i below
    simp [below]

end Move

theorem bytes_moveOf (heap : Heap) (destination source count : Value) :
    (moveOf heap destination source count).bytes =
      (heap.movedBytes source).extract 0 (min count.toInteger.toInt.toNat
        (Int64.maxValue.toInt - destination.toInteger.toInt + 1).toNat) := by
  cases source <;> rfl

/-! ## Memories -/

namespace Memory

variable {memory other : Memory} {move : Move} {address : Int}

/-- What holds of the memory without moves, and is kept by one more move, holds of every memory. -/
theorem induction_of_push {motive : Memory → Prop} (empty : motive {})
    (push : ∀ memory move, motive memory → motive { moves := memory.moves.push move })
    (memory : Memory) : motive memory := by
  rcases memory with ⟨⟨moves⟩⟩
  induction moves using List.reverseRecOn with
  | nil => exact empty
  | append_singleton moves move induction =>
      have pushed := push _ move induction
      rwa [List.push_toArray] at pushed

@[simp] theorem byte?_empty : ({} : Memory).byte? address = none := rfl

@[simp] theorem byte?_push :
    ({ moves := memory.moves.push move } : Memory).byte? address =
      (move.byte? address).or (memory.byte? address) := by
  simp [byte?]

/-- A move without bytes is not recorded, and would not change what an address holds. -/
theorem byte?_write :
    (memory.write move).byte? address = (move.byte? address).or (memory.byte? address) := by
  unfold write
  split
  · rename_i isEmpty
    have noBytes : move.byte? address = none := by
      rw [← Option.not_isSome_iff_eq_none, Move.isSome_byte?_iff, Move.last,
        show move.bytes.size = 0 from eq_of_beq isEmpty]
      omega
    rw [noBytes, Option.none_or]
  · exact byte?_push

/-- Every move has bytes, and all of its addresses are 64-bit integers. -/
def IsSound (memory : Memory) : Prop :=
  ∀ move ∈ memory.moves, 0 < move.bytes.size ∧ move.last ≤ Int64.maxValue.toInt

theorem isSound_empty : ({} : Memory).IsSound := by
  simp [IsSound]

theorem IsSound.merge (sound : memory.IsSound) (otherSound : other.IsSound) :
    (memory.merge other).IsSound := by
  intro move member
  rcases Array.mem_append.1 member with first | second
  · exact sound move first
  · exact otherSound move second

theorem isSome_byte?_iff :
    (memory.byte? address).isSome = true ↔
      ∃ move ∈ memory.moves, move.address.toInt ≤ address ∧ address ≤ move.last := by
  induction memory using induction_of_push with
  | empty => simp
  | push memory move induction =>
      rw [byte?_push, Option.isSome_or, Bool.or_eq_true, Move.isSome_byte?_iff, induction]
      simp only [Array.mem_push]
      constructor
      · rintro (last | ⟨earlier, member, inside⟩)
        · exact ⟨move, .inr rfl, last⟩
        · exact ⟨earlier, .inl member, inside⟩
      · rintro ⟨other, member | rfl, inside⟩
        · exact .inr ⟨other, member, inside⟩
        · exact .inl inside

theorem merge_write : memory.merge (other.write move) = (memory.merge other).write move := by
  unfold write merge
  split <;> simp

end Memory

/-! ## Calls of the routine -/

def moveOfCall (heap : Heap) (arguments : List Value) : Move :=
  moveOf heap (argument arguments 0) (argument arguments 1) (argument arguments 2)

/-- The byte that a call moves to an address. It puts the bytes of its source at the addresses from its
destination on, at most so many as the count says. Those for which there is no address are left out. -/
def movedByte? (heap : Heap) (arguments : List Value) (address : Int) : Option UInt8 :=
  let destination := (argument arguments 0).toInteger.toInt
  let count := (argument arguments 2).toInteger.toInt
  if destination ≤ address ∧ address ≤ Int64.maxValue.toInt ∧ address < destination + count then
    (heap.movedBytes (argument arguments 1)).data[(address - destination).toNat]?
  else none

theorem byte?_moveOfCall (heap : Heap) (arguments : List Value) (address : Int) :
    (moveOfCall heap arguments).byte? address = movedByte? heap arguments address := by
  have start : (moveOfCall heap arguments).address = (argument arguments 0).toInteger := rfl
  rw [Move.byte?, start, moveOfCall, bytes_moveOf, ByteArray.data_extract, Array.getElem?_extract,
    movedByte?]
  generalize (heap.movedBytes (argument arguments 1)).data = data
  split
  · rename_i above
    split
    · rename_i inside
      rw [if_pos (by omega), Nat.zero_add]
    · rename_i outside
      split
      · rename_i within
        exact (Array.getElem?_eq_none (by omega)).symm
      · rfl
  · rename_i below
    rw [if_neg fun within => below within.1]

def collectedMoves (heap : Heap) (calls : List (List Value)) : Memory :=
  calls.foldl (fun memory arguments => memory.write (moveOfCall heap arguments)) {}

theorem last_moveOfCall_le (heap : Heap) (arguments : List Value) :
    (moveOfCall heap arguments).last ≤ Int64.maxValue.toInt := by
  have start := (argument arguments 0).toInteger.toInt_le
  have size : (moveOfCall heap arguments).bytes.size ≤
      (Int64.maxValue.toInt - (argument arguments 0).toInteger.toInt + 1).toNat := by
    rw [moveOfCall, bytes_moveOf, ByteArray.size_extract]
    omega
  have address : (moveOfCall heap arguments).address = (argument arguments 0).toInteger := rfl
  rw [Move.last, address]
  omega

section

variable {heap : Heap} {calls : List (List Value)}

theorem collectedMoves_append (arguments : List Value) :
    collectedMoves heap (calls ++ [arguments]) =
      (collectedMoves heap calls).write (moveOfCall heap arguments) := by
  simp [collectedMoves]

theorem merge_collectedMoves_cons (memory : Memory) (heap : Heap) (arguments : List Value)
    (rest : List (List Value)) :
    (memory.write (moveOfCall heap arguments)).merge (collectedMoves heap rest) =
      memory.merge (collectedMoves heap (arguments :: rest)) := by
  have made (memory : Memory) (calls : List (List Value)) : memory.merge (collectedMoves heap calls) =
      calls.foldl (fun memory arguments => memory.write (moveOfCall heap arguments)) memory := by
    induction calls using List.reverseRecOn with
    | nil => simp [collectedMoves, Memory.merge]
    | append_singleton calls arguments induction =>
        rw [collectedMoves_append, Memory.merge_write, induction, List.foldl_append,
          List.foldl_cons, List.foldl_nil]
  rw [made, made, List.foldl_cons]

theorem isSound_collectedMoves (heap : Heap) (calls : List (List Value)) :
    (collectedMoves heap calls).IsSound := by
  induction calls using List.reverseRecOn with
  | nil => exact Memory.isSound_empty
  | append_singleton calls arguments sound =>
      rw [collectedMoves_append, Memory.write]
      split
      · exact sound
      · rename_i notEmpty
        intro move member
        rcases Array.mem_push.1 member with earlier | rfl
        · exact sound move earlier
        · exact ⟨Nat.pos_of_ne_zero fun size => notEmpty (beq_of_eq size),
            last_moveOfCall_le heap arguments⟩

theorem byte?_collectedMoves (heap : Heap) (calls : List (List Value)) (address : Int) :
    (collectedMoves heap calls).byte? address =
      calls.reverse.findSome? fun arguments => movedByte? heap arguments address := by
  induction calls using List.reverseRecOn with
  | nil => rfl
  | append_singleton calls arguments induction =>
      rw [collectedMoves_append, Memory.byte?_write, byte?_moveOfCall, induction, List.reverse_append]
      simp only [List.reverse_singleton, List.cons_append, List.nil_append, List.findSome?_cons]
      cases movedByte? heap arguments address <;> rfl

end

/-! ## Call by call -/

namespace Eval

def moveAll : List (List Value) → Eval Unit
  | [] => pure ()
  | arguments :: rest => do
      let _ ← HostRoutine.moveMemory.perform arguments
      moveAll rest

theorem perform_moveMemory (environment : Environment) (state : State) (arguments : List Value) :
    HostRoutine.moveMemory.perform arguments environment state =
      .ok (.integer 0)
        { state with run.memory := state.run.memory.write (moveOfCall state.heap arguments) } :=
  rfl

theorem moveAll_eq (environment : Environment) (state : State) (calls : List (List Value)) :
    moveAll calls environment state =
      .ok () { state with
        run.memory := state.run.memory.merge (collectedMoves state.heap calls) } := by
  induction calls generalizing state with
  | nil => simp [moveAll, collectedMoves, Memory.merge]
  | cons arguments rest induction =>
      rw [moveAll, Running.run_bind, perform_moveMemory, ← merge_collectedMoves_cons]
      dsimp only
      rw [induction]

end Eval

/-! ## In a loop program -/

namespace Machine

def loaded (setup : Setup) (state : State) (name : String) : Value :=
  match load name setup state with
  | .ok value _ => value
  | .error _ _ => .null

theorem load_eq (setup : Setup) (state : State) (name : String) :
    load name setup state = .ok (loaded setup state name) state :=
  rfl

theorem evaluateAll_vars (calls : Calls) (setup : Setup) (state : State) (names : List String) :
    evaluateAll calls (names.map .var) setup state =
      .ok (names.map (loaded setup state)) state := by
  induction names with
  | nil => rfl
  | cons name rest induction =>
      rw [List.map_cons, evaluateAll, Running.run_bind, evaluate, load_eq]
      dsimp only
      rw [Running.run_bind, induction]
      rfl

theorem evaluateAll_writeMemory (calls : Calls) (setup : Setup) (state : State)
    (moves : List (List String)) :
    evaluateAll calls (moves.map fun names => .writeMemory (names.map .var)) setup state =
      .ok (moves.map fun _ => .integer 0) { state with
        memory := state.memory.merge
          (collectedMoves state.heap (moves.map (·.map (loaded setup state)))) } := by
  induction moves generalizing state with
  | nil => simp [evaluateAll, collectedMoves, Memory.merge]
  | cons names rest induction =>
      have written : evaluate calls (.writeMemory (names.map .var)) setup state =
          .ok (.integer 0) { state with
            memory := state.memory.write
              (moveOfCall state.heap (names.map (loaded setup state))) } := by
        rw [evaluate, Running.run_bind, evaluateAll_vars]
        rfl
      have sameValues (memory : Memory) : loaded setup { state with memory } = loaded setup state :=
        rfl
      have further := induction { state with
        memory := state.memory.write (moveOfCall state.heap (names.map (loaded setup state))) }
      rw [sameValues (state.memory.write _)] at further
      simp only [List.map_cons, ← merge_collectedMoves_cons]
      rw [evaluateAll, Running.run_bind, written]
      dsimp only
      rw [Running.run_bind, further]
      dsimp only
      rw [Running.run_pure]

end Machine

end MacroSandbox
