import MacroSandbox.Policy
import MacroSandbox.Policy.Json

/-! Policies read from JSON: an object whose members set fields by name, or an array that sets them
in order. Fields that are not set keep their defaults; unknown names are passed over; a field that
is set twice, or to a value of another type, spoils the policy. -/

namespace MacroSandbox

namespace Json

def below? (bound : Nat) : Json → Option Nat
  | .natural (some value) => if value < bound then some value else none
  | _ => none

def boolean? : Json → Option Bool
  | .boolean value => some value
  | _ => none

end Json

namespace Duration

def normalize? (seconds nanoseconds : Nat) : Option Duration :=
  let seconds := seconds + nanoseconds / 1000000000
  if seconds < UInt64.size then some { seconds, nanoseconds := nanoseconds % 1000000000 } else none

def ofJson? : Json → Option Duration
  | .array [seconds, nanoseconds] => do
      normalize? (← seconds.below? UInt64.size) (← nanoseconds.below? UInt32.size)
  | .object [(some "secs", seconds), (some "nanos", nanoseconds)] => do
      normalize? (← seconds.below? UInt64.size) (← nanoseconds.below? UInt32.size)
  | .object [(some "nanos", nanoseconds), (some "secs", seconds)] => do
      normalize? (← seconds.below? UInt64.size) (← nanoseconds.below? UInt32.size)
  | _ => none

end Duration

namespace Policy

def setters : List (String × (Policy → Json → Option Policy)) :=
  let word (json : Json) : Option Nat := json.below? UInt64.size
  [("max_call_depth", fun policy json =>
      (word json).map fun value => { policy with maxCallDepth := value }),
   ("max_execution_time", fun policy json =>
      (Duration.ofJson? json).map fun value => { policy with maxExecutionTime := value }),
   ("jit_enabled", fun policy json =>
      json.boolean?.map fun value => { policy with compileLoops := value }),
   ("jit_max_iterations", fun policy json =>
      (word json).map fun value => { policy with maxCompiledIterations := value }),
   ("max_loop_errors", fun policy json =>
      (word json).map fun value => { policy with maxLoopFaults := value }),
   ("max_loop_iterations", fun policy json =>
      (word json).map fun value => { policy with maxLoopIterations := value }),
   ("permissive_literals", fun policy json =>
      json.boolean?.map fun value => { policy with permissiveLiterals := value }),
   ("strip_null_bytes_in_actions", fun policy json =>
      json.boolean?.map fun value => { policy with stripNulInActions := value })]

/-- Sets the fields that members name. `seen` holds the names of the fields that are set already. -/
def setMembers : List (Option String × Json) → (seen : List String) → Policy → Option Policy
  | [], _, policy => some policy
  | (none, _) :: _, _, _ => none
  | (some name, value) :: rest, seen, policy =>
      match setters.lookup name with
      | none => setMembers rest seen policy
      | some setter =>
          if seen.contains name then none
          else (setter policy value).bind (setMembers rest (name :: seen))

def setItems : List (String × (Policy → Json → Option Policy)) → List Json → Policy →
    Option Policy
  | _, [], policy => some policy
  | [], _ :: _, _ => none
  | (_, setter) :: setters, value :: rest, policy =>
      (setter policy value).bind (setItems setters rest)

def ofJson? (text : String) : Option Policy :=
  match Json.parse? text with
  | some (.object members) => setMembers members [] {}
  | some (.array items) => setItems setters items {}
  | _ => none

end Policy

end MacroSandbox
