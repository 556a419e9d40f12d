import MacroSandbox.Evaluation.Monad
import MacroSandbox.Loop.Lowering
import MacroSandbox.Loop.Machine

/-! Loops as loop programs: a loop is lowered, run on the machine, and its result is merged into the
state of the caller. Results are remembered by the text of the program. -/

namespace MacroSandbox

/-! ## Writing a result back -/

namespace State

/-- Writes the value of a variable back. A list or a map that the variable holds already is changed
in place, so that every name for it observes the result. -/
def mergeValue (environment : Environment) (state : State) (name : String) (value : Value) :
    State :=
  match (state.scope environment).get? name, value with
  | some (.list existing), .list updated =>
      let items := state.heap.list updated
      { state with heap := state.heap.modifyList existing fun _ => items }
  | some (.map existing), .map updated =>
      let entries := state.heap.map updated
      { state with heap := state.heap.modifyMap existing fun _ => entries }
  | _, other => state.set environment name other

/-- Writes final values back in order. Each is built in places of its own first. -/
def mergeUpdates (environment : Environment) (state : State) : List (String × Datum) → State
  | [] => state
  | (name, final) :: rest =>
      let heap := state.heap
      let state := { state with heap := {} }
      let (value, heap) := final.build heap
      let state := { state with heap }
      (state.mergeValue environment name value).mergeUpdates environment rest

def mergeTypes (state : State) : List (String × DeclaredType) → State
  | [] => state
  | (name, type) :: rest =>
      let state :=
        if (state.frame.types.get? name).isNone then state.setType name type else state
      state.mergeTypes rest

def mergeResult (environment : Environment) (state : State) (result : LoopResult)
    (certain : List (String × DeclaredType)) : State :=
  let state := state.mergeUpdates environment result.updates
  let state := { state with run.memory := state.run.memory.merge result.memory }
  state.mergeTypes certain

end State

def Eval.mergeResult (result : LoopResult) (certain : List (String × DeclaredType)) :
    Eval Unit := do
  let environment ← read
  modify fun state => state.mergeResult environment result certain

/-! ## Running a program -/

/-- The state of the caller after the machine ran: the lists and maps that the machine left in the
places of the caller, and the limiter that it used. -/
def State.afterMachine (state : State) (machine : Machine.State) : State :=
  { state with
    heap := machine.heap.restrictTo state.heap
    run.limiter := machine.limiter }

inductive LoopOutcome
  | dynamic
  | refused
  | reused
  | failedBefore
  | completed
  | failed
  | endless
  deriving Repr, DecidableEq, Inhabited

namespace LoopOutcome

def isMerged : LoopOutcome → Bool
  | .reused | .completed => true
  | _ => false

/-- Whether the loop is dealt with: its effects are in place, or it is endless and was skipped.
Otherwise it is for the interpreter. -/
def isSettled : LoopOutcome → Bool
  | .reused | .completed | .endless => true
  | _ => false

end LoopOutcome

def Eval.rememberLoop (key : String) (entry : CachedLoop) : Eval Unit :=
  modify fun state => { state with caches := state.caches.storeLoop key entry }

/-- Runs a program that is not in the cache. Nothing but its cache entry and the ticks of the
limiter remains of a run without a result. -/
def Eval.runProgram (lowered : Lowered) (key : String) : Eval LoopOutcome := do
  let policy := (← read).policy
  let state ← get
  let (outcome, machine) := Machine.run lowered.program policy state.heap state.run.limiter
  modify fun state => state.afterMachine machine
  match outcome with
  | .ok result =>
      Eval.mergeResult result lowered.certain
      Eval.rememberLoop key (.done result)
      return .completed
  | .error (.fatal fault) => Eval.raise fault
  | .error .runaway =>
      Eval.rememberLoop key .endless
      return .endless
  | .error (.failed _) =>
      Eval.rememberLoop key .failed
      return .failed

def Eval.knownLoop? (key : String) : Eval (Option CachedLoop) :=
  modifyGet fun state =>
    let (entry, caches) := state.caches.loop? key
    (entry, { state with caches })

def Eval.offerLoop (loop : Statement) : Eval LoopOutcome := do
  let caller := (← get).caller (← read)
  if hasDynamicCode (loop.render caller.heap) then return .dynamic
  match caller.lower? loop with
  | none => return .refused
  | some lowered =>
      let key := lowered.program.render caller.heap
      match ← Eval.knownLoop? key with
      | some (.done result) =>
          Eval.mergeResult result lowered.certain
          return .reused
      | some .failed | some .endless => return .failedBefore
      | none => Eval.runProgram lowered key

/-- Tries to run a loop as a loop program. The answer says whether the loop is dealt with. -/
def Eval.compileLoop (loop : Statement) : Eval Bool :=
  return (← Eval.offerLoop loop).isSettled

end MacroSandbox
