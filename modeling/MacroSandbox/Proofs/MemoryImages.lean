import MacroSandbox.Proofs.Copies
import MacroSandbox.Proofs.MemoryContents

/-! How emulated memory is read out.

A memory is a list of moves. Read out, it is one byte for each address from the first to the last that
holds one, or only the bytes that were moved, if the addresses are too far apart. -/

namespace MacroSandbox

namespace Memory

variable {memory : Memory} {move : Move} {first last : Int}

/-! ## The span of a memory -/

structure Spans (memory : Memory) (first last : Int) : Prop where
  first_written : (memory.byte? first).isSome = true
  last_written : (memory.byte? last).isSome = true
  inside : ∀ address, (memory.byte? address).isSome = true → first ≤ address ∧ address ≤ last

theorem isSound_push :
    ({ moves := memory.moves.push move } : Memory).IsSound ↔
      memory.IsSound ∧ 0 < move.bytes.size ∧ move.last ≤ Int64.maxValue.toInt := by
  constructor
  · intro sound
    exact ⟨fun earlier member => sound earlier (Array.mem_push_of_mem _ member),
      sound move Array.mem_push_self⟩
  · rintro ⟨sound, moveSound⟩ earlier member
    rcases Array.mem_push.1 member with before | rfl
    · exact sound earlier before
    · exact moveSound

theorem range?_push :
    ({ moves := memory.moves.push move } : Memory).range? =
      match memory.range? with
      | none => some (move.address.toInt, move.last)
      | some (first, last) => some (min first move.address.toInt, max last move.last) := by
  unfold range?
  exact Array.foldl_push ..

theorem spans_push_of_empty (notEmpty : 0 < move.bytes.size)
    (unwritten : ∀ address, memory.byte? address = none) :
    ({ moves := memory.moves.push move } : Memory).Spans move.address.toInt move.last := by
  have written (address : Int) :
      (({ moves := memory.moves.push move } : Memory).byte? address).isSome = true ↔
        move.address.toInt ≤ address ∧ address ≤ move.last := by
    rw [byte?_push, unwritten, Option.or_none, Move.isSome_byte?_iff]
  have ordered : move.address.toInt ≤ move.last := by
    rw [Move.last]
    omega
  exact ⟨(written _).2 ⟨Int.le_refl _, ordered⟩, (written _).2 ⟨ordered, Int.le_refl _⟩,
    fun address => (written address).1⟩

theorem Spans.push (spans : memory.Spans first last) (notEmpty : 0 < move.bytes.size) :
    ({ moves := memory.moves.push move } : Memory).Spans (min first move.address.toInt)
      (max last move.last) := by
  have written (address : Int) :
      (({ moves := memory.moves.push move } : Memory).byte? address).isSome = true ↔
        (move.address.toInt ≤ address ∧ address ≤ move.last) ∨
          (memory.byte? address).isSome = true := by
    rw [byte?_push, Option.isSome_or, Bool.or_eq_true, Move.isSome_byte?_iff]
  have ordered : move.address.toInt ≤ move.last := by
    rw [Move.last]
    omega
  refine ⟨(written _).2 ?_, (written _).2 ?_, fun address isWritten => ?_⟩
  · rcases Int.le_total first move.address.toInt with before | after
    · rw [Int.min_eq_left before]
      exact .inr spans.first_written
    · rw [Int.min_eq_right after]
      exact .inl ⟨Int.le_refl _, ordered⟩
  · rcases Int.le_total last move.last with before | after
    · rw [Int.max_eq_right before]
      exact .inl ⟨ordered, Int.le_refl _⟩
    · rw [Int.max_eq_left after]
      exact .inr spans.last_written
  · rcases (written address).1 isWritten with inMove | before
    · omega
    · have := spans.inside address before
      omega

theorem spans_of_range? (sound : memory.IsSound) :
    (memory.range? = none → ∀ address, memory.byte? address = none) ∧
      ∀ first last, memory.range? = some (first, last) → memory.Spans first last := by
  induction memory using induction_of_push with
  | empty => exact ⟨fun _ _ => rfl, nofun⟩
  | push memory move induction =>
      obtain ⟨earlierSound, notEmpty, _⟩ := isSound_push.1 sound
      obtain ⟨unwritten, spans⟩ := induction earlierSound
      rw [range?_push]
      rcases range : memory.range? with _ | ⟨first, last⟩
      · refine ⟨nofun, ?_⟩
        rintro _ _ ⟨⟩
        exact spans_push_of_empty notEmpty (unwritten range)
      · refine ⟨nofun, ?_⟩
        rintro _ _ ⟨⟩
        exact (spans _ _ range).push notEmpty

/-! ## Memory without gaps -/

section

variable {source target : ByteArray} {offset : Nat}

theorem data_copySlice :
    (source.copySlice 0 target offset source.size).data =
      target.data.extract 0 offset ++ source.data ++ target.data.extract (offset + source.size) := by
  rw [ByteArray.copySlice, ← ByteArray.size_data, Nat.zero_add, Nat.sub_zero, Nat.min_self,
    Array.extract_size]

theorem size_copySlice (fits : offset + source.size ≤ target.size) :
    (source.copySlice 0 target offset source.size).size = target.size := by
  have sourceSize : source.data.size = source.size := rfl
  have targetSize : target.data.size = target.size := rfl
  rw [← ByteArray.size_data, data_copySlice]
  simp only [Array.size_append, Array.size_extract]
  omega

theorem getElem?_copySlice (fits : offset + source.size ≤ target.size) (index : Nat) :
    (source.copySlice 0 target offset source.size).data[index]? =
      if offset ≤ index ∧ index < offset + source.size then source.data[index - offset]?
      else target.data[index]? := by
  have sourceSize : source.data.size = source.size := rfl
  have targetSize : target.data.size = target.size := rfl
  rw [data_copySlice, Array.getElem?_append, Array.getElem?_append]
  simp only [Array.size_append, Array.size_extract, Array.getElem?_extract]
  grind

end

def IsWithin (memory : Memory) (first last : Int) : Prop :=
  ∀ move ∈ memory.moves, 0 < move.bytes.size ∧ first ≤ move.address.toInt ∧ move.last ≤ last

theorem denseImage_push :
    ({ moves := memory.moves.push move } : Memory).denseImage first last =
      move.bytes.copySlice 0 (memory.denseImage first last) (move.address.toInt - first).toNat
        move.bytes.size := by
  unfold denseImage
  dsimp only
  rw [Array.foldl_push]

theorem IsWithin.push_cases
    (within : IsWithin { moves := memory.moves.push move } first last) :
    memory.IsWithin first last ∧ first ≤ move.address.toInt ∧
      (move.address.toInt - first).toNat + move.bytes.size ≤ (last - first + 1).toNat := by
  obtain ⟨notEmpty, below, above⟩ := within move Array.mem_push_self
  rw [Move.last] at above
  exact ⟨fun earlier member => within earlier (Array.mem_push_of_mem _ member), below, by omega⟩

theorem size_denseImage (within : memory.IsWithin first last) :
    (memory.denseImage first last).size = (last - first + 1).toNat := by
  induction memory using induction_of_push with
  | empty => simp [denseImage, ← ByteArray.size_data]
  | push memory move induction =>
      obtain ⟨earlier, _, fits⟩ := within.push_cases
      rw [denseImage_push, size_copySlice (by rw [induction earlier]; exact fits), induction earlier]

theorem getElem?_denseImage (within : memory.IsWithin first last) {index : Nat}
    (inside : index < (last - first + 1).toNat) :
    (memory.denseImage first last).data[index]? =
      some ((memory.byte? (first + index)).getD gap) := by
  induction memory using induction_of_push with
  | empty => simp [denseImage, inside]
  | push memory move induction =>
      obtain ⟨earlier, below, fits⟩ := within.push_cases
      have position : (first + index - move.address.toInt).toNat =
          index - (move.address.toInt - first).toNat := by
        omega
      rw [denseImage_push, getElem?_copySlice (by rw [size_denseImage earlier]; exact fits),
        induction earlier, byte?_push, Move.byte?, position]
      have size : move.bytes.data.size = move.bytes.size := rfl
      grind

/-! ## Memory with gaps -/

theorem foldl_eq_foldl_toList {α : Type} (step : α → UInt8 → α) (start : α) (bytes : ByteArray) :
    bytes.foldl step start = bytes.data.toList.foldl step start := by
  -- The loops over a byte array and over its data take the same steps.
  have loops (stop : Nat) (within : stop ≤ bytes.size) (left : Nat) : ∀ (index : Nat) (value : α),
      ByteArray.foldlM.loop (m := Id) (fun value byte => pure (step value byte)) bytes stop within left
          index value =
        Array.foldlM.loop (m := Id) (fun value byte => pure (step value byte)) bytes.data stop within
          left index value := by
    induction left with
    | zero => intros; unfold ByteArray.foldlM.loop Array.foldlM.loop; rfl
    | succ left induction =>
        intro index value
        unfold ByteArray.foldlM.loop Array.foldlM.loop
        split
        · exact induction _ _
        · rfl
  rw [Array.foldl_toList]
  unfold ByteArray.foldl ByteArray.foldlM Array.foldl Array.foldlM
  dsimp only
  rw [dif_pos (Nat.le_refl _), dif_pos (Nat.le_refl _)]
  exact congrArg Id.run (loops _ _ _ _ _)

def insertBytes (table : Std.TreeMap Int UInt8) (address : Int) :
    List UInt8 → Std.TreeMap Int UInt8
  | [] => table
  | byte :: rest => insertBytes (table.insert address byte) (address + 1) rest

theorem getElem?_insertBytes (bytes : List UInt8) (table : Std.TreeMap Int UInt8)
    (start address : Int) :
    (insertBytes table start bytes)[address]? =
      (if start ≤ address then bytes[(address - start).toNat]? else none).or table[address]? := by
  induction bytes generalizing table start with
  | nil => simp [insertBytes]
  | cons byte rest induction =>
      rw [insertBytes, induction, Std.TreeMap.getElem?_insert]
      simp only [Std.LawfulEqCmp.compare_eq_iff_eq]
      rcases Int.lt_trichotomy address start with before | rfl | after
      · rw [if_neg (by omega), if_neg (by omega), if_neg (by omega)]
      · rw [if_neg (by omega), if_pos rfl, if_pos (Int.le_refl _), Int.sub_self]
        rfl
      · have next : (address - start).toNat = (address - (start + 1)).toNat + 1 := by omega
        rw [if_pos (by omega), if_neg (by omega), if_pos (by omega), next, List.getElem?_cons_succ]

def table (memory : Memory) : Std.TreeMap Int UInt8 :=
  memory.moves.foldl (fun table move => insertBytes table move.address.toInt move.bytes.data.toList) ∅

theorem getElem?_table (memory : Memory) (address : Int) :
    memory.table[address]? = memory.byte? address := by
  induction memory using induction_of_push with
  | empty => simp [table]
  | push memory move induction =>
      have pushed : ({ moves := memory.moves.push move } : Memory).table =
          insertBytes memory.table move.address.toInt move.bytes.data.toList := by
        simp [table]
      rw [pushed, getElem?_insertBytes, induction, byte?_push, Move.byte?, Array.getElem?_toList]

def insertNext (entry : Std.TreeMap Int UInt8 × Int) (byte : UInt8) : Std.TreeMap Int UInt8 × Int :=
  (entry.1.insert entry.2 byte, entry.2 + 1)

theorem foldl_insertNext (bytes : List UInt8) (table : Std.TreeMap Int UInt8) (address : Int) :
    (bytes.foldl insertNext (table, address)).1 = insertBytes table address bytes := by
  induction bytes generalizing table address with
  | nil => rfl
  | cons byte rest induction => exact induction _ _

theorem sparseImage_eq (memory : Memory) : memory.sparseImage = ⟨memory.table.values.toArray⟩ := by
  have moved (table : Std.TreeMap Int UInt8) (move : Move) :
      (move.bytes.foldl insertNext (table, move.address.toInt)).1 =
        insertBytes table move.address.toInt move.bytes.data.toList := by
    rw [foldl_eq_foldl_toList, foldl_insertNext]
  have sameTable : memory.moves.foldl
      (fun table move => (move.bytes.foldl insertNext (table, move.address.toInt)).1) ∅ =
        memory.table := by
    simp only [moved]
    rfl
  exact congrArg (fun table => (⟨table.values.toArray⟩ : ByteArray)) sameTable

theorem values_table (memory : Memory) :
    memory.table.values = memory.table.keys.filterMap memory.byte? := by
  rw [values_eq_map_toList, ← Std.TreeMap.map_fst_toList_eq_keys, List.filterMap_map,
    ← List.filterMap_eq_map]
  refine List.filterMap_congr fun entry member => ?_
  have held := Std.TreeMap.mem_toList_iff_getElem?_eq_some.1 member
  exact ((getElem?_table memory entry.1).symm.trans held).symm

/-! ## Reading out -/

/-- What a memory is read out as. -/
inductive ReadsOutAs (memory : Memory) : List UInt8 → Prop
  | nothing (unwritten : ∀ address, memory.byte? address = none) : ReadsOutAs memory []
  | dense {first last : Int} (spans : memory.Spans first last) (near : last - first < maxAllocation) :
      ReadsOutAs memory ((List.range (last - first + 1).toNat).map fun index : Nat =>
        (memory.byte? (first + index)).getD gap)
  | sparse {first last : Int} (spans : memory.Spans first last)
      (far : (maxAllocation : Int) ≤ last - first) {addresses : List Int}
      (ordered : addresses.Pairwise (· < ·))
      (all : ∀ address, address ∈ addresses ↔ (memory.byte? address).isSome = true) :
      ReadsOutAs memory (addresses.filterMap memory.byte?)

theorem Spans.isWithin (spans : memory.Spans first last) (sound : memory.IsSound) :
    memory.IsWithin first last := by
  intro move member
  obtain ⟨notEmpty, _⟩ := sound move member
  have ordered : move.address.toInt ≤ move.last := by
    rw [Move.last]
    omega
  have holds {address : Int} (above : move.address.toInt ≤ address) (below : address ≤ move.last) :
      first ≤ address ∧ address ≤ last :=
    spans.inside address (isSome_byte?_iff.2 ⟨move, member, above, below⟩)
  exact ⟨notEmpty, (holds (Int.le_refl _) ordered).1, (holds ordered (Int.le_refl _)).2⟩

theorem toList_denseImage (within : memory.IsWithin first last) :
    (memory.denseImage first last).data.toList =
      (List.range (last - first + 1).toNat).map fun index : Nat =>
        (memory.byte? (first + index)).getD gap := by
  have size := size_denseImage within
  rw [← ByteArray.size_data] at size
  apply List.ext_getElem?
  intro index
  rw [Array.getElem?_toList, List.getElem?_map]
  rcases Nat.lt_or_ge index (last - first + 1).toNat with inside | outside
  · rw [getElem?_denseImage within inside, List.getElem?_range inside]
    rfl
  · rw [Array.getElem?_eq_none (by omega), List.getElem?_eq_none (by simpa using outside)]
    rfl

theorem readsOutAs_image (sound : memory.IsSound) : memory.ReadsOutAs memory.image.data.toList := by
  obtain ⟨unwritten, spanned⟩ := spans_of_range? sound
  unfold image
  split
  · exact .nothing (unwritten ‹_›)
  · rename_i first last range
    have spans := spanned first last range
    split
    · rename_i far
      rw [sparseImage_eq, List.toList_toArray, values_table]
      refine .sparse spans far ?_ fun address => ?_
      · exact Std.TreeMap.ordered_keys.imp fun less => Int.compare_eq_lt.1 less
      · rw [Std.TreeMap.mem_keys, Std.TreeMap.mem_iff_isSome_getElem?, getElem?_table]
    · rename_i near
      rw [toList_denseImage (spans.isWithin sound)]
      exact .dense spans (Int.not_le.1 near)

theorem IsSound.bounds (sound : memory.IsSound) {address : Int}
    (written : (memory.byte? address).isSome = true) :
    Int64.minValue.toInt ≤ address ∧ address ≤ Int64.maxValue.toInt := by
  obtain ⟨move, member, above, below⟩ := isSome_byte?_iff.1 written
  exact ⟨Int.le_trans move.address.le_toInt above, Int.le_trans below (sound move member).2⟩

/-- Whatever finitely many addresses hold, there is a sound memory in which they hold it. -/
theorem exists_isSound (entries : List (Int64 × UInt8)) :
    ∃ memory : Memory, memory.IsSound ∧ ∀ address, memory.byte? address =
      (entries.find? fun entry => entry.1.toInt == address).map Prod.snd := by
  induction entries with
  | nil => exact ⟨{}, isSound_empty, fun _ => rfl⟩
  | cons entry rest induction =>
      obtain ⟨memory, sound, holds⟩ := induction
      let move : Move := { address := entry.1, bytes := ⟨#[entry.2]⟩ }
      have last : move.last = entry.1.toInt := Int.add_sub_cancel ..
      refine ⟨{ moves := memory.moves.push move },
        isSound_push.2 ⟨sound, Nat.one_pos, last ▸ entry.1.toInt_le⟩, fun address => ?_⟩
      rw [byte?_push, holds, List.find?_cons]
      rcases Decidable.em (entry.1.toInt = address) with rfl | other
      · simp [move, Move.byte?]
      · have elsewhere : move.byte? address = none := by
          rw [← Option.not_isSome_iff_eq_none, Move.isSome_byte?_iff, last]
          exact fun inside => other (Int.le_antisymm inside.1 inside.2)
        rw [elsewhere, Option.none_or, beq_false_of_ne other]

/-- Moves end in the same memory however they are made: by an interpreter, call by call, or by a loop
program, whose machine collects them and whose memory is merged at the end. Each address then holds what
the last of the calls that reach it moved there, or else what it held before. The addresses are 64-bit
integers, and the memory can be read out. -/
theorem read_out_moves {state : State} (sound : state.run.memory.IsSound) (calls : List (List Value)) :
    let collected := collectedMoves state.heap calls
    let memory := state.run.memory.merge collected
    (∀ environment,
      Eval.moveAll calls environment state = .ok () { state with run.memory := memory }) ∧
    (∀ machineCalls setup (machine : Machine.State) (moves : List (List String)),
      machine.heap = state.heap → machine.memory = {} →
      moves.map (·.map (Machine.loaded setup machine)) = calls →
        Machine.evaluateAll machineCalls (moves.map fun names => .writeMemory (names.map .var)) setup
            machine =
          .ok (moves.map fun _ => .integer 0) { machine with memory := collected }) ∧
    (∀ address, memory.byte? address =
      (calls.reverse.findSome? (movedByte? state.heap · address)).or
        (state.run.memory.byte? address)) ∧
    (∀ address, (memory.byte? address).isSome = true →
      Int64.minValue.toInt ≤ address ∧ address ≤ Int64.maxValue.toInt) ∧
    memory.ReadsOutAs memory.image.data.toList := by
  intro collected memory
  have memorySound : memory.IsSound := sound.merge (isSound_collectedMoves state.heap calls)
  refine ⟨fun environment => Eval.moveAll_eq environment state calls, ?_, fun address => ?_,
    fun _ => memorySound.bounds, readsOutAs_image memorySound⟩
  · intro machineCalls setup machine moves sameHeap unwritten sameCalls
    have merged : ({} : Memory).merge collected = collected := by simp [merge]
    rw [Machine.evaluateAll_writeMemory, sameHeap, sameCalls, unwritten, merged]
  · rw [byte?_merge, byte?_collectedMoves]

private def startNearLastAddress : State :=
  { State.start {} none {} {} with
    run.memory := { moves := #[{ address := Int64.maxValue - 3, bytes := ⟨#[7]⟩ }] } }

private def callsAtLastAddress : List (List Value) :=
  [[.integer (Int64.maxValue - 1), .integer 0x0807060504030201, .integer 4],
    [.integer Int64.maxValue, .integer 9, .integer 1]]

/-- Bytes without an address are left out, and the last address holds what was moved there last. -/
theorem read_out_moves_at_last_address :
    startNearLastAddress.run.memory.IsSound ∧
      (startNearLastAddress.run.memory.merge
        (collectedMoves startNearLastAddress.heap callsAtLastAddress)).ReadsOutAs [7, gap, 1, 9] := by
  have sound : startNearLastAddress.run.memory.IsSound :=
    isSound_push.2 ⟨isSound_empty, by decide, by decide⟩
  have image : (startNearLastAddress.run.memory.merge (collectedMoves startNearLastAddress.heap
      callsAtLastAddress)).image.data.toList = [7, gap, 1, 9] := by
    decide +kernel
  have readsOut := (read_out_moves sound callsAtLastAddress).2.2.2.2
  rw [image] at readsOut
  exact ⟨sound, readsOut⟩

end Memory

end MacroSandbox
