import MacroSandbox.Fault

/-! What one run may use: the size of what emulated code allocates, the nesting of its calls, and
time. -/

namespace MacroSandbox

/-! ## Allocation -/

/-- The largest text, in bytes, or list, in items, that emulated code may allocate. -/
def maxAllocation : Nat := 0x1000000

/-- The number `size` as the size of an allocation, if it is within the limit. A negative size is
empty. -/
def allocation? (size : Int64) : Option Nat :=
  let count := size.toInt.toNat
  if count ≤ maxAllocation then some count else none

/-! ## Time -/

/-- A span of time: whole seconds, and less than a second in nanoseconds. -/
structure Duration where
  seconds : Nat
  nanoseconds : Nat := 0
  deriving Repr, DecidableEq, Inhabited

def Duration.isZero (duration : Duration) : Bool :=
  duration.seconds == 0 && duration.nanoseconds == 0

/-- What a run can learn of the time. The host decides how fast it goes by: a span of time is over
after a number of ticks of the run, or not before the run is over. -/
structure Clock where
  date : String := "01/01/2024"
  dateAndTime : String := date ++ " 12:00:00 AM"
  secondsSinceMidnight : Float := 0.0
  ticksWithin : Duration → Option UInt64 := fun span => if span.isZero then some 0 else none
  deriving Inhabited

/-! ## The limiter -/

structure Limiter where
  maxDepth : Nat
  depth : Nat := 0
  ticks : UInt64 := 0
  /-- The ticks with which the time is up, if it ever is. -/
  deadline : Option UInt64 := none
  deriving Repr, DecidableEq, Inhabited

namespace Limiter

def new (maxDepth : Nat) (budget : Duration) (clock : Clock := {}) : Limiter :=
  { maxDepth, deadline := clock.ticksWithin budget }

def expired (limiter : Limiter) : Bool :=
  limiter.deadline.any (· ≤ limiter.ticks)

@[inline] def check (limiter : Limiter) : Except Fault Unit :=
  if limiter.maxDepth < limiter.depth then .error (.recursionLimit limiter.depth)
  else if limiter.expired then .error .timeout
  else .ok ()

/-- The cheap check at every node: the clock is read at every 64th call only. -/
@[inline] def tick (limiter : Limiter) : Except Fault Unit × Limiter :=
  let limiter := { limiter with ticks := limiter.ticks + 1 }
  let outcome :=
    if limiter.maxDepth < limiter.depth then .error (.recursionLimit limiter.depth)
    else if limiter.ticks &&& 0x3F == 0 && limiter.expired then .error .timeout
    else .ok ()
  (outcome, limiter)

def enter (limiter : Limiter) : Except Fault Limiter :=
  let depth := limiter.depth + 1
  if limiter.maxDepth < depth then .error (.recursionLimit depth)
  else .ok { limiter with depth }

def leave (limiter : Limiter) : Limiter :=
  { limiter with depth := limiter.depth - 1 }

end Limiter

end MacroSandbox
