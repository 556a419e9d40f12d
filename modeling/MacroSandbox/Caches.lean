import MacroSandbox.Memory

/-! What evaluations remember from each other: the values of constant expressions by their source
text, and the results of compiled loops by the text of their programs. Entries are never removed. -/

namespace MacroSandbox

/-- What a compiled loop did: the final value of every variable that it may have written, in the
order of the names, and the bytes that it wrote to memory. -/
structure LoopResult where
  updates : List (String × Datum)
  memory : Memory

inductive CachedLoop
  | done (result : LoopResult)
  | failed
  | endless

structure CacheStatistics where
  constantHits : Nat := 0
  constantMisses : Nat := 0
  loopHits : Nat := 0
  loopMisses : Nat := 0
  deriving Repr, DecidableEq, Inhabited

structure Caches where
  constants : Std.TreeMap String Value := ∅
  loops : Std.TreeMap String CachedLoop := ∅
  statistics : CacheStatistics := {}
  deriving Inhabited

namespace Caches

def constant? (caches : Caches) (source : String) : Option Value × Caches :=
  let statistics := caches.statistics
  match caches.constants.get? source with
  | some value =>
      (some value,
        { caches with statistics.constantHits := statistics.constantHits + 1 })
  | none =>
      (none,
        { caches with statistics.constantMisses := statistics.constantMisses + 1 })

/-- Remembers the value of a constant expression if it is a number. The first value stays. -/
def storeConstant (caches : Caches) (source : String) (value : Value) : Caches :=
  if value.isNumeric then
    { caches with constants := caches.constants.insertIfNew source value }
  else caches

def loop? (caches : Caches) (program : String) : Option CachedLoop × Caches :=
  let statistics := caches.statistics
  match caches.loops.get? program with
  | some entry =>
      (some entry, { caches with statistics.loopHits := statistics.loopHits + 1 })
  | none =>
      (none, { caches with statistics.loopMisses := statistics.loopMisses + 1 })

def storeLoop (caches : Caches) (program : String) (entry : CachedLoop) : Caches :=
  { caches with loops := caches.loops.insert program entry }

end Caches

end MacroSandbox
