import MacroSandbox.Limits

/-! The policy of a run: what it may use and how it treats loops. -/

namespace MacroSandbox

structure Policy where
  maxCallDepth : Nat := 200
  maxExecutionTime : Duration := { seconds := 120 }
  compileLoops : Bool := true
  /-- How many iterations a compiled loop may run before it counts as endless. -/
  maxCompiledIterations : Nat := 10000000
  /-- How many faults a compiled loop may absorb before it counts as endless. -/
  maxLoopFaults : Nat := 1000
  /-- How many iterations an interpreted loop may run before it is abandoned. -/
  maxLoopIterations : Nat := 10000000
  /-- Whether compiled loops may hold text outside ASCII. -/
  permissiveLiterals : Bool := false
  stripNulInActions : Bool := false
  deriving Repr, DecidableEq, Inhabited

def Policy.limiter (policy : Policy) (clock : Clock := {}) : Limiter :=
  Limiter.new policy.maxCallDepth policy.maxExecutionTime clock

end MacroSandbox
