import MacroSandbox.Evaluation.Interpreter

/-! Sessions: several frames at once that an analyst works with side by side.

The frames of a session share the heap and the caches. A frame that was pushed as a child belongs to
the run of its parent and works under the same environment; a fresh frame starts a run of its
own. -/

namespace MacroSandbox

structure SessionFrame where
  environment : Environment
  run : Nat
  frame : Frame
  deriving Inhabited

structure Session where
  heap : Heap := {}
  caches : Caches := {}
  runs : Array Run := #[]
  frames : Array SessionFrame := #[]

namespace Session

def environment (session : Session) (position : Nat) : Environment :=
  (session.frames.getD position default).environment

def state (session : Session) (position : Nat) : State :=
  let entry := session.frames.getD position default
  { heap := session.heap
    caches := session.caches
    run := session.runs.getD entry.run default
    frame := entry.frame }

def update (session : Session) (position : Nat) (state : State) : Session :=
  let entry := session.frames.getD position default
  { session with
    heap := state.heap
    caches := state.caches
    runs := session.runs.setIfInBounds entry.run state.run
    frames := session.frames.setIfInBounds position { entry with frame := state.frame } }

/-- Evaluates in the frame at a position. What was changed before an interruption stays changed. -/
def perform {α : Type} (session : Session) (position : Nat) (action : Eval α) :
    Except Interruption α × Session :=
  match action (session.environment position) (session.state position) with
  | .ok value state => (.ok value, session.update position state)
  | .error interruption state => (.error interruption, session.update position state)

def pushFresh (session : Session) (environment : Environment) (sink : Option (Array Action)) :
    Session :=
  { session with
    runs := session.runs.push (Run.start environment sink)
    frames := session.frames.push { environment, run := session.runs.size, frame := {} } }

def pushChild (session : Session) (position : Nat) : Session :=
  let entry := session.frames.getD position default
  { session with frames := session.frames.push { entry with frame := entry.frame.child } }

def pop (session : Session) : Session :=
  { session with frames := session.frames.pop }

end Session

end MacroSandbox
