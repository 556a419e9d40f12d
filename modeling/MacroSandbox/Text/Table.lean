/-! Ordered tables: arrays whose entries stand in increasing order, so that an entry is found by
halving the range it must lie in. -/

namespace MacroSandbox.Text.Table

variable {α : Type}

/-- Looks for an entry among those at positions `low` to `high - 1`. `place` says whether what is
looked for stands before an entry, at it, or after it. Each step halves the number of entries
left. -/
@[specialize] def findBetween (place : α → Ordering) (table : Array α) :
    (steps low high : Nat) → Option α
  | 0, _, _ => none
  | steps + 1, low, high =>
      if high ≤ low then none
      else
        let middle := (low + high) / 2
        match table[middle]? with
        | none => none
        | some entry =>
            match place entry with
            | .lt => findBetween place table steps low middle
            | .gt => findBetween place table steps (middle + 1) high
            | .eq => some entry

/-- The entry at which `place` puts what is looked for. 32 steps are enough for every table. -/
@[inline] def find? (place : α → Ordering) (table : Array α) : Option α :=
  findBetween place table 32 0 table.size

def placeInRange (code first last : Nat) : Ordering :=
  if code < first then .lt else if last < code then .gt else .eq

theorem mem_of_findBetween {place : α → Ordering} {table : Array α} {entry : α} :
    ∀ {steps low high : Nat}, findBetween place table steps low high = some entry →
      entry ∈ table ∧ place entry = .eq
  | 0, _, _, found => by simp [findBetween] at found
  | steps + 1, low, high, found => by
      rw [findBetween] at found
      split at found
      · simp at found
      · dsimp only at found
        split at found
        · simp at found
        · rename_i middle present
          split at found
          · exact mem_of_findBetween found
          · exact mem_of_findBetween found
          · rename_i here
            obtain rfl := Option.some.inj found
            exact ⟨Array.mem_of_getElem? present, here⟩

end MacroSandbox.Text.Table
