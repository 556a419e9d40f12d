/-! Faults: the ways an evaluation ends without a value. -/

namespace MacroSandbox

/-- A fault of the emulated program, or the exhaustion of a resource of the run. -/
inductive Fault
  /-- The name is bound in no scope and in no registry. -/
  | undefinedVariable (name : String)
  | runtime (number : Int) (message : String)
  | recursionLimit (depth : Nat)
  | timeout
  deriving Repr, DecidableEq, Inhabited

namespace Fault

/-! ## The run-time errors that the sandbox raises -/

def invalidCall (message : String) : Fault := .runtime 5 message

def overflow (message : String) : Fault := .runtime 6 message

def outOfMemory (message : String) : Fault := .runtime 7 message

def subscriptOutOfRange (message : String) : Fault := .runtime 9 message

def divisionByZero : Fault := .runtime 11 "Division by zero"

def typeMismatch (message : String) : Fault := .runtime 13 message

def outOfStringSpace (message : String) : Fault := .runtime 14 message

def wrongArgumentCount (message : String) : Fault := .runtime 450 message

def notIterable (kind : String) : Fault := .runtime 451 ("cannot iterate over " ++ kind)

/-! ## What emulated code and the user see -/

/-- The exhaustion of a resource ends the whole run; emulated code never handles it. -/
def isFatal : Fault → Bool
  | .recursionLimit _ | .timeout => true
  | .undefinedVariable _ | .runtime .. => false

def number : Fault → Int
  | .undefinedVariable _ => 424
  | .runtime number _ => number
  | .recursionLimit _ => 28
  | .timeout => 18

def message : Fault → String
  | .undefinedVariable name => "Undefined variable: " ++ name
  | .runtime number message => "Runtime error " ++ toString number ++ ": " ++ message
  | .recursionLimit depth => "Maximum call depth exceeded (" ++ toString depth ++ ")"
  | .timeout => "Execution timed out"

end Fault

end MacroSandbox
