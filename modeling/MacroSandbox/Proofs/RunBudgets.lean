import MacroSandbox.Proofs.Confinement
import MacroSandbox.Proofs.FuelledMachine
import MacroSandbox.Proofs.Running

/-! A run always ends, and within its budgets.

The machine is compared, part by part, with the machine with fuel: given enough of it, both end in the
same way and in the same state, and the tally of the one is what the other counts. The machine recurses on
the rounds that are left and on the calls that may still nest, and so it might end only because nothing is
left. It does not: a round is counted before it begins and a call before it is entered, so the limits stop
the run first. For the same reason no more fuel is used than the limits allow. -/

namespace MacroSandbox

namespace Machine

/-! ## Counts -/

/-- A tally of what a state counts. Every fault was absorbed, except for the last `pending` ones. -/
structure Tallied (pending : Nat) (tally : Tally) (state : State) : Prop where
  rounds : tally.rounds = state.iterations
  absorbed : tally.absorbed = state.faults
  faults : tally.faults = tally.absorbed + pending

theorem Tallied.unique {pending : Nat} {one two : Tally} {state : State}
    (first : Tallied pending one state) (second : Tallied pending two state) : one = two := by
  rcases one with ⟨rounds, faults, absorbed⟩
  rcases two with ⟨roundsToo, faultsToo, absorbedToo⟩
  obtain rfl : rounds = roundsToo := first.rounds.trans second.rounds.symm
  obtain rfl : absorbed = absorbedToo := first.absorbed.trans second.absorbed.symm
  obtain rfl : faults = faultsToo := first.faults.trans second.faults.symm
  rfl

/-- The counts of a state are tallied and within the limits, and `least` rounds or more were begun. Of the
limiter only the ticks have changed. -/
structure Counted (setup : Setup) (limiter : Limiter) (least pending : Nat) (tally : Tally)
    (state : State) : Prop extends Tallied pending tally state where
  begun : least ≤ tally.rounds
  withinRounds : tally.rounds ≤ setup.maxIterations
  withinFaults : tally.absorbed ≤ setup.maxFaults
  limiter : state.limiter = { limiter with ticks := state.limiter.ticks }

def Tally.Exceeds (setup : Setup) (tally : Tally) : Prop :=
  setup.maxIterations < tally.rounds ∨ setup.maxFaults < tally.absorbed

/-- What is counted when a part of a run ends early: one fault that nothing absorbed, or the end of the
run, which is a runaway if and only if the limits were exceeded. -/
def Stop.Counts (setup : Setup) (limiter : Limiter) (least : Nat) (tally : Tally) (state : State) :
    Stop → Prop
  | .fault _ => Counted setup limiter least 1 tally state
  | .halt reason => Tallied 0 tally state ∧ (reason = .runaway ↔ tally.Exceeds setup)

structure SameCounts (before after : State) : Prop where
  iterations : after.iterations = before.iterations
  faults : after.faults = before.faults
  limiter : after.limiter = { before.limiter with ticks := after.limiter.ticks }

theorem SameCounts.trans {first second third : State} (left : SameCounts first second)
    (right : SameCounts second third) : SameCounts first third := by
  refine ⟨?_, ?_, ?_⟩
  · rw [right.iterations, left.iterations]
  · rw [right.faults, left.faults]
  · rw [right.limiter, left.limiter]

section

variable {α β : Type} {setup : Setup} {limiter : Limiter} {least : Nat}

theorem Counted.of_sameCounts {pending : Nat} {tally : Tally} {before after : State}
    (counted : Counted setup limiter least pending tally before)
    (same : SameCounts before after) : Counted setup limiter least pending tally after := by
  refine { counted with rounds := ?_, absorbed := ?_, limiter := ?_ }
  · rw [same.iterations, counted.rounds]
  · rw [same.faults, counted.absorbed]
  · rw [same.limiter, counted.limiter]

theorem Counted.sameDepths {pending : Nat} {tally : Tally} {state : State}
    (counted : Counted setup limiter least pending tally state) :
    state.limiter.depth = limiter.depth ∧ state.limiter.maxDepth = limiter.maxDepth :=
  ⟨congrArg (·.depth) counted.limiter, congrArg (·.maxDepth) counted.limiter⟩

theorem Counted.not_exceeds {pending : Nat} {tally : Tally} {state : State}
    (counted : Counted setup limiter least pending tally state) : ¬ tally.Exceeds setup := by
  rintro (rounds | faults)
  · exact absurd counted.withinRounds (Nat.not_le.2 rounds)
  · exact absurd counted.withinFaults (Nat.not_le.2 faults)

theorem Stop.Counts.mono {more : Nat} {tally : Tally} {state : State} {stop : Stop}
    (counts : stop.Counts setup limiter more tally state) (fewer : least ≤ more) :
    stop.Counts setup limiter least tally state := by
  cases stop with
  | halt halt => exact counts
  | fault fault =>
      have counted : Counted setup limiter more 1 tally state := counts
      exact { counted with begun := Nat.le_trans fewer counted.begun }

/-! ## Parts that count nothing -/

def LeftCounts (before : State) : EStateM.Result Stop State α → Prop
  | .ok _ after => SameCounts before after
  | .error stop after => SameCounts before after ∧ stop ≠ .halt .runaway

def Uncounted (part : Machine α) : Prop :=
  ∀ setup state, LeftCounts state (part setup state)

namespace Uncounted

theorem pure (value : α) : Uncounted (Pure.pure value) :=
  fun _ _ => ⟨rfl, rfl, rfl⟩

theorem bind {part : Machine α} {next : α → Machine β} (first : Uncounted part)
    (second : ∀ value, Uncounted (next value)) : Uncounted (part >>= next) := by
  intro setup state
  have middle := first setup state
  rw [Running.run_bind]
  cases ran : part setup state with
  | error stop after =>
      rw [ran] at middle
      exact middle
  | ok value after =>
      rw [ran] at middle
      have last := second value setup after
      dsimp only
      cases ranNext : next value setup after with
      | ok result final =>
          rw [ranNext] at last
          exact middle.trans last
      | error stop final =>
          rw [ranNext] at last
          exact ⟨middle.trans last.1, last.2⟩

theorem get_bind {next : State → Machine α} (uncounted : ∀ state, Uncounted (next state)) :
    Uncounted (get >>= next) :=
  fun setup state => uncounted state setup state

theorem modify {change : State → State} (same : ∀ state, SameCounts state (change state)) :
    Uncounted (modify change : Machine Unit) :=
  fun _ state => same state

theorem raise (fault : Fault) : Uncounted (raise fault : Machine α) := by
  intro setup state
  refine ⟨⟨rfl, rfl, rfl⟩, ?_⟩
  unfold Stop.ofFault
  split <;> simp

theorem lift (outcome : Except Fault α) : Uncounted (lift outcome) := by
  cases outcome with
  | ok value => exact pure value
  | error fault => exact raise fault

theorem tick : Uncounted tick := by
  intro setup state
  have ofFault (fault : Fault) : Stop.ofFault fault ≠ .halt .runaway :=
    (raise (α := Unit) fault setup state).2
  unfold Machine.tick
  dsimp only
  cases state.limiter.tick.1 with
  | ok => exact ⟨rfl, rfl, rfl⟩
  | error fault => exact ⟨⟨rfl, rfl, rfl⟩, ofFault fault⟩

theorem onHeap (compute : Heap → Except Fault α × Heap) : Uncounted (onHeap compute) := by
  intro setup state
  have ofFault (fault : Fault) : Stop.ofFault fault ≠ .halt .runaway :=
    (raise (α := Unit) fault setup state).2
  unfold Machine.onHeap
  dsimp only
  rcases compute state.heap with ⟨fault | value, heap⟩
  · exact ⟨⟨rfl, rfl, rfl⟩, ofFault _⟩
  · exact ⟨rfl, rfl, rfl⟩

theorem load (name : String) : Uncounted (load name) :=
  fun _ _ => ⟨rfl, rfl, rfl⟩

theorem store (name : String) (value : Value) : Uncounted (store name value) := by
  intro setup state
  unfold Machine.store
  cases state.locals with
  | none => exact ⟨rfl, rfl, rfl⟩
  | some locals =>
      dsimp only
      split <;> exact ⟨rfl, rfl, rfl⟩

theorem bindHere (name : String) (value : Value) (type : Option DeclaredType) :
    Uncounted (bindHere name value type) := by
  apply modify
  intro state
  split <;> exact ⟨rfl, rfl, rfl⟩

theorem advance (index : String) (step : Value) : Uncounted (advance index step) := by
  apply bind (load index)
  intro current
  apply get_bind
  intro state
  exact bind (lift _) fun next => store index next

theorem bindResult (function : LoopFunction) : Uncounted (bindResult function) := by
  unfold Machine.bindResult
  split
  · exact bindHere _ _ _
  · exact pure ()

theorem bindParameters (parameters : List (String × Option DeclaredType))
    (arguments : List Value) : Uncounted (bindParameters parameters arguments) := by
  induction parameters generalizing arguments with
  | nil => exact pure ()
  | cons parameter rest induction =>
      apply get_bind
      intro state
      apply bind (bindHere _ _ _)
      intro _
      exact induction arguments.tail

end Uncounted

/-! ## Parts that end in the same way -/

/-- Both machines ended a part of a run in the same way: with the same value or for the same reason, in
the same state, and with a tally of what the state counts. -/
def EndAlike (setup : Setup) (limiter : Limiter) (least : Nat) :
    EStateM.Result Stop State α → Option (Except Stop α × Tally × State) → Prop
  | .ok value after, ended => ∃ tally, ended = some (.ok value, tally, after) ∧
      Counted setup limiter least 0 tally after
  | .error stop after, ended => ∃ tally, ended = some (.error stop, tally, after) ∧
      stop.Counts setup limiter least tally after

/-- From a state that agrees with the tally, both machines end a part of a run in the same way. -/
def Settles (setup : Setup) (limiter : Limiter) (least : Nat) (part : Machine α)
    (fuelled : Fuelled α) : Prop :=
  ∀ tally state, Counted setup limiter least 0 tally state →
    EndAlike setup limiter least (part setup state) (fuelled setup (tally, state))

theorem EndAlike.mono {more : Nat} {result : EStateM.Result Stop State α}
    {ended : Option (Except Stop α × Tally × State)}
    (alike : EndAlike setup limiter more result ended) (fewer : least ≤ more) :
    EndAlike setup limiter least result ended := by
  cases result with
  | ok value after =>
      obtain ⟨tally, same, counted⟩ := alike
      exact ⟨tally, same, { counted with begun := Nat.le_trans fewer counted.begun }⟩
  | error stop after =>
      obtain ⟨tally, same, counts⟩ := alike
      exact ⟨tally, same, counts.mono fewer⟩

theorem EndAlike.unique {result : EStateM.Result Stop State α}
    {one two : Option (Except Stop α × Tally × State)}
    (first : EndAlike setup limiter least result one)
    (second : EndAlike setup limiter least result two) : one = two := by
  cases result with
  | ok value after =>
      obtain ⟨tally, rfl, counted⟩ := first
      obtain ⟨tallyToo, rfl, countedToo⟩ := second
      rw [counted.toTallied.unique countedToo.toTallied]
  | error stop after =>
      obtain ⟨tally, rfl, counts⟩ := first
      obtain ⟨tallyToo, rfl, countsToo⟩ := second
      cases stop with
      | fault fault =>
          have pending : Counted setup limiter least 1 tally after := counts
          rw [pending.toTallied.unique (Counted.toTallied countsToo)]
      | halt reason => rw [counts.1.unique countsToo.1]

theorem countIteration_of_le {state : State}
    (within : state.iterations + 1 ≤ setup.maxIterations) :
    countIteration setup state = tick setup { state with iterations := state.iterations + 1 } := by
  unfold countIteration
  simp only [Running.run_bind, Running.run_modify, Running.run_read, Running.run_get,
    Nat.not_lt.2 within, if_false]

theorem countIteration_of_lt {state : State}
    (exceeds : setup.maxIterations < state.iterations + 1) :
    countIteration setup state =
      .error (.halt .runaway) { state with iterations := state.iterations + 1 } := by
  unfold countIteration
  simp only [Running.run_bind, Running.run_modify, Running.run_read, Running.run_get, exceeds,
    if_true, Running.run_throw]

theorem countFault_of_le {state : State} (within : state.faults + 1 ≤ setup.maxFaults) :
    countFault setup state = .ok () { state with faults := state.faults + 1 } := by
  unfold countFault
  simp only [Running.run_bind, Running.run_modify, Running.run_read, Running.run_get,
    Nat.not_lt.2 within, if_false, Running.run_pure]

theorem countFault_of_lt {state : State} (exceeds : setup.maxFaults < state.faults + 1) :
    countFault setup state =
      .error (.halt .runaway) { state with faults := state.faults + 1 } := by
  unfold countFault
  simp only [Running.run_bind, Running.run_modify, Running.run_read, Running.run_get, exceeds,
    if_true, Running.run_throw]

namespace Settles

theorem of_uncounted {part : Machine α} (uncounted : Uncounted part) :
    Settles setup limiter least part (.part part) := by
  intro tally state counted
  have same := uncounted setup state
  unfold Fuelled.part
  dsimp only
  cases ran : part setup state with
  | ok value after =>
      rw [ran] at same
      exact ⟨tally, rfl, counted.of_sameCounts same⟩
  | error stop after =>
      rw [ran] at same
      refine ⟨tally.stopped stop, rfl, ?_⟩
      cases stop with
      | fault fault =>
          have kept := counted.of_sameCounts same.1
          exact { kept with faults := congrArg (· + 1) kept.faults }
      | halt halt =>
          have other : halt ≠ .runaway := fun isRunaway => same.2 (congrArg Stop.halt isRunaway)
          have kept := counted.of_sameCounts same.1
          exact ⟨kept.toTallied, iff_of_false other counted.not_exceeds⟩

theorem pure (value : α) :
    Settles setup limiter least (Pure.pure value) (Pure.pure value) :=
  fun tally _ counted => ⟨tally, rfl, counted⟩

theorem bind {part : Machine α} {next : α → Machine β} {fuelled : Fuelled α}
    {fuelledNext : α → Fuelled β} (first : Settles setup limiter least part fuelled)
    (second : ∀ value, Settles setup limiter least (next value) (fuelledNext value)) :
    Settles setup limiter least (part >>= next) (fuelled >>= fuelledNext) := by
  intro tally state counted
  have middle := first tally state counted
  rw [Running.run_bind, Fuelled.run_bind]
  cases ran : part setup state with
  | ok value after =>
      rw [ran] at middle
      obtain ⟨tallyAfter, ended, countedAfter⟩ := middle
      rw [ended]
      exact second value tallyAfter after countedAfter
  | error stop after =>
      rw [ran] at middle
      obtain ⟨tallyAfter, ended, counts⟩ := middle
      rw [ended]
      exact ⟨tallyAfter, rfl, counts⟩

theorem get_bind {next : State → Machine α} {fuelledNext : Tally × State → Fuelled α}
    (settles : ∀ tally state,
      Settles setup limiter least (next state) (fuelledNext (tally, state))) :
    Settles setup limiter least (get >>= next) (get >>= fuelledNext) :=
  fun tally state counted => settles tally state tally state counted

theorem read_bind {next : Setup → Machine α} {fuelled : Fuelled α}
    (settles : Settles setup limiter least (next setup) fuelled) :
    Settles setup limiter least (read >>= next) fuelled :=
  fun tally state counted => settles tally state counted

theorem tick_bind {next : Unit → Machine α} {fuelledNext : Unit → Fuelled α}
    (settles : Settles setup limiter least (next ()) (fuelledNext ())) :
    Settles setup limiter least (tick >>= next) (Fuelled.part tick >>= fuelledNext) :=
  bind (of_uncounted .tick) fun _ => settles

theorem round_bind {next : Unit → Machine α} {fuelledNext : Unit → Fuelled α}
    (settles : Settles setup limiter (least + 1) (next ()) (fuelledNext ())) :
    Settles setup limiter least (countIteration >>= next)
      (Fuelled.beginRound >>= fuelledNext) := by
  intro tally state counted
  let counting : State := { state with iterations := state.iterations + 1 }
  let begun : Tally := { tally with rounds := tally.rounds + 1 }
  have sameRounds : begun.rounds = counting.iterations := congrArg (· + 1) counted.rounds
  have begins : (Fuelled.beginRound >>= fuelledNext) setup (tally, state) =
      (Fuelled.part countIteration >>= fuelledNext) setup (begun, state) := rfl
  -- The machine counts before it looks at the limit, and the tally counts with it.
  by_cases within : counting.iterations ≤ setup.maxIterations
  · have countedNext : Counted setup limiter (least + 1) 0 begun counting :=
      { counted with
        rounds := sameRounds
        begun := Nat.succ_le_succ counted.begun
        withinRounds := sameRounds ▸ within }
    have ended := tick_bind settles begun counting countedNext
    have counts : countIteration setup state = tick setup counting := countIteration_of_le within
    have beginsToo : Fuelled.part countIteration setup (begun, state) =
        Fuelled.part tick setup (begun, counting) := by
      simp only [Fuelled.part, counts]
    rw [Running.run_bind, Fuelled.run_bind] at ended
    rw [begins, Running.run_bind, Fuelled.run_bind, counts, beginsToo]
    exact ended.mono (Nat.le_succ least)
  · have exceeds : setup.maxIterations < counting.iterations := Nat.not_le.1 within
    have counts : countIteration setup state = .error (.halt .runaway) counting :=
      countIteration_of_lt exceeds
    have beginsToo : Fuelled.part countIteration setup (begun, state) =
        some (.error (.halt .runaway), begun, counting) := by
      simp only [Fuelled.part, counts, Tally.stopped]
    rw [begins, Running.run_bind, Fuelled.run_bind, counts, beginsToo]
    have tallied : Tallied 0 begun counting := { counted.toTallied with rounds := sameRounds }
    exact ⟨begun, rfl, tallied, iff_of_true rfl (.inl (sameRounds ▸ exceeds))⟩

theorem countFault {tally : Tally} {state : State}
    (pending : Counted setup limiter least 1 tally state) :
    EndAlike setup limiter least (countFault setup state)
      (Fuelled.part Machine.countFault setup
        ({ tally with absorbed := tally.absorbed + 1 }, state)) := by
  let counting : State := { state with faults := state.faults + 1 }
  let absorbing : Tally := { tally with absorbed := tally.absorbed + 1 }
  have sameFaults : absorbing.absorbed = counting.faults := congrArg (· + 1) pending.absorbed
  have tallied : Tallied 0 absorbing counting := ⟨pending.rounds, sameFaults, pending.faults⟩
  unfold Fuelled.part
  dsimp only
  by_cases within : counting.faults ≤ setup.maxFaults
  · rw [countFault_of_le within]
    refine ⟨absorbing, rfl, ?_⟩
    exact { tallied, pending with withinFaults := sameFaults ▸ within }
  · have exceeds : setup.maxFaults < counting.faults := Nat.not_le.1 within
    rw [countFault_of_lt exceeds]
    exact ⟨absorbing, rfl, tallied, iff_of_true rfl (.inr (sameFaults ▸ exceeds))⟩

theorem guarded {guard : Guard} {statement : Machine Flow} {fuelled : Fuelled Flow}
    (settles : Settles setup limiter least statement fuelled) :
    Settles setup limiter least (Machine.guarded guard statement)
      (Fuelled.guarded guard fuelled) := by
  intro tally state counted
  have ended := settles tally state counted
  unfold Machine.guarded Fuelled.guarded
  cases ran : statement setup state with
  | ok flow after =>
      rw [ran] at ended
      obtain ⟨tallyAfter, same, countedAfter⟩ := ended
      rw [same]
      exact ⟨tallyAfter, rfl, countedAfter⟩
  | error stop after =>
      rw [ran] at ended
      obtain ⟨tallyAfter, same, counts⟩ := ended
      rw [same]
      cases stop with
      | halt reason => exact ⟨tallyAfter, rfl, counts⟩
      | fault fault =>
          -- Only a fault is absorbed; it is counted, and the guard decides where to go on.
          have absorbs := countFault counts
          dsimp only
          rw [Fuelled.absorb_eq, Fuelled.run_bind]
          cases ranCount : Machine.countFault setup after with
          | error stop last =>
              rw [ranCount] at absorbs
              obtain ⟨tallyLast, sameLast, countsLast⟩ := absorbs
              rw [sameLast]
              exact ⟨tallyLast, rfl, countsLast⟩
          | ok value last =>
              rw [ranCount] at absorbs
              obtain ⟨tallyLast, sameLast, countedLast⟩ := absorbs
              rw [sameLast]
              cases guard <;> exact ⟨tallyLast, rfl, countedLast⟩

end Settles

/-! ## Expressions and simple statements -/

def CallsSettle (setup : Setup) (limiter : Limiter) (calls : Calls)
    (fuelledCalls : Fuelled.Calls) : Prop :=
  ∀ least name arguments,
    Settles setup limiter least (calls name arguments) (fuelledCalls name arguments)

variable {calls : Calls} {fuelledCalls : Fuelled.Calls}

mutual

theorem settles_evaluate (settle : CallsSettle setup limiter calls fuelledCalls) : ∀ expression : LoopExpr,
    Settles setup limiter least (evaluate calls expression)
      (Fuelled.evaluate fuelledCalls expression)
  | .constant value => by
      rw [evaluate, Fuelled.evaluate]
      exact .of_uncounted fun _ _ => ⟨rfl, rfl, rfl⟩
  | .var name => by
      rw [evaluate, Fuelled.evaluate]
      exact .of_uncounted (.load name)
  | .unary operator operand => by
      rw [evaluate, Fuelled.evaluate]
      apply Settles.bind (settles_evaluate settle operand)
      intro value
      exact .pure _
  | .binary operator left right => by
      rw [evaluate, Fuelled.evaluate]
      apply Settles.bind (settles_evaluate settle left)
      intro leftValue
      apply Settles.bind (settles_evaluate settle right)
      intro rightValue
      exact .of_uncounted (.get_bind fun _ => .lift _)
  | .index name indices => by
      rw [evaluate, Fuelled.evaluate]
      apply Settles.bind (settles_evaluateAll settle indices)
      intro values
      exact .of_uncounted (.bind (.load name) fun _ => .get_bind fun _ => .lift _)
  | .builtin _ routine arguments => by
      rw [evaluate, Fuelled.evaluate]
      apply Settles.bind (settles_evaluateAll settle arguments)
      intro values
      exact .of_uncounted (.onHeap _)
  | .call name arguments => by
      rw [evaluate, Fuelled.evaluate]
      apply Settles.bind (settles_evaluateAll settle arguments)
      intro values
      exact settle least name values
  | .writeMemory arguments => by
      rw [evaluate, Fuelled.evaluate]
      apply Settles.bind (settles_evaluateAll settle arguments)
      intro values
      exact .of_uncounted (.bind (.modify fun _ => ⟨rfl, rfl, rfl⟩) fun _ => .pure _)

theorem settles_evaluateAll (settle : CallsSettle setup limiter calls fuelledCalls) :
    ∀ expressions : List LoopExpr,
      Settles setup limiter least (evaluateAll calls expressions)
        (Fuelled.evaluateAll fuelledCalls expressions)
  | [] => by
      rw [evaluateAll, Fuelled.evaluateAll]
      exact .pure _
  | expression :: rest => by
      rw [evaluateAll, Fuelled.evaluateAll]
      apply Settles.bind (settles_evaluate settle expression)
      intro value
      apply Settles.bind (settles_evaluateAll settle rest)
      intro values
      exact .pure _

end

theorem settles_evaluateOptional (settle : CallsSettle setup limiter calls fuelledCalls)
    (expression : Option LoopExpr) :
    Settles setup limiter least (evaluateOptional calls expression)
      (Fuelled.evaluateOptional fuelledCalls expression) := by
  cases expression with
  | none => exact .pure _
  | some expression =>
      rw [evaluateOptional, Fuelled.evaluateOptional, ← bind_pure_comp, ← bind_pure_comp]
      apply Settles.bind (settles_evaluate settle expression)
      intro value
      exact .pure _

theorem settles_initialValue (settle : CallsSettle setup limiter calls fuelledCalls)
    (declaration : LoopDeclaration) :
    Settles setup limiter least (initialValue calls declaration)
      (Fuelled.initialValue fuelledCalls declaration) := by
  unfold initialValue Fuelled.initialValue
  cases declaration.bounds with
  | nil => exact .pure _
  | cons bound rest =>
      apply Settles.bind (settles_evaluateAll settle (bound :: rest))
      intro bounds
      exact .of_uncounted (.onHeap _)

theorem settles_declare (settle : CallsSettle setup limiter calls fuelledCalls)
    (declaration : LoopDeclaration) :
    Settles setup limiter least (declare calls declaration)
      (Fuelled.declare fuelledCalls declaration) := by
  unfold declare Fuelled.declare
  apply Settles.get_bind
  intro tally state
  dsimp only
  split
  · exact .pure _
  · apply Settles.bind (settles_initialValue settle declaration)
    intro value
    exact .of_uncounted (.bindHere _ _ _)

theorem settles_declareAll (settle : CallsSettle setup limiter calls fuelledCalls)
    (declarations : List LoopDeclaration) :
    Settles setup limiter least (declareAll calls declarations)
      (Fuelled.declareAll fuelledCalls declarations) := by
  induction declarations with
  | nil =>
      rw [declareAll, Fuelled.declareAll]
      exact .pure _
  | cons declaration rest induction =>
      rw [declareAll, Fuelled.declareAll]
      exact .bind (settles_declare settle declaration) fun _ => induction

theorem settles_assignElement (settle : CallsSettle setup limiter calls fuelledCalls) (name : String)
    (indices : List LoopExpr) (value : LoopExpr) :
    Settles setup limiter least (assignElement calls name indices value)
      (Fuelled.assignElement fuelledCalls name indices value) := by
  unfold assignElement Fuelled.assignElement
  apply Settles.bind (settles_evaluate settle value)
  intro value
  apply Settles.bind (settles_evaluateAll settle indices)
  intro indices
  refine .of_uncounted (.bind (.load name) fun target => .get_bind fun state => ?_)
  exact .bind (.lift _) fun slot => .modify fun _ => ⟨rfl, rfl, rfl⟩

theorem settles_overwriteText (settle : CallsSettle setup limiter calls fuelledCalls) (name : String)
    (start : LoopExpr) (length : Option LoopExpr) (value : LoopExpr) :
    Settles setup limiter least (overwriteText calls name start length value)
      (Fuelled.overwriteText fuelledCalls name start length value) := by
  unfold overwriteText Fuelled.overwriteText
  apply Settles.bind (settles_evaluate settle value)
  intro value
  apply Settles.get_bind
  intro tally state
  apply Settles.bind (settles_evaluate settle start)
  intro start
  apply Settles.bind (settles_evaluateOptional settle length)
  intro length
  refine .of_uncounted (.bind (.load name) fun current => .get_bind fun state => ?_)
  exact .bind (.lift _) fun updated => .store name _

/-! ## Loops -/

theorem settles_of_lt {part : Machine α} {fuelled : Fuelled α}
    (exceeds : setup.maxIterations < least) : Settles setup limiter least part fuelled :=
  fun _ _ counted =>
    absurd (Nat.lt_of_lt_of_le exceeds counted.begun) (Nat.not_lt.2 counted.withinRounds)

abbrev BodySettles (setup : Setup) (limiter : Limiter) (body : Machine Flow)
    (fuelledBody : Fuelled Flow) : Prop :=
  ∀ least, Settles setup limiter least body fuelledBody

variable {body : Machine Flow} {fuelledBody : Fuelled Flow}

theorem settles_rangeLoop (settle : BodySettles setup limiter body fuelledBody) (index : String)
    (finish step : Value) (descending : Bool) {left fuel : Nat}
    (enough : setup.maxIterations < least + left) (fuelled : setup.maxIterations < least + fuel) :
    Settles setup limiter least (rangeLoop body index finish step descending left)
      (Fuelled.rangeLoop fuelledBody index finish step descending fuel) := by
  -- Every round uses up one of both bounds, and one more round was begun then.
  induction left generalizing least fuel with
  | zero => exact settles_of_lt enough
  | succ left induction =>
      cases fuel with
      | zero => exact settles_of_lt fuelled
      | succ fuel =>
          rw [rangeLoop, Fuelled.rangeLoop]
          apply Settles.bind (.of_uncounted (.load index))
          intro current
          apply Settles.get_bind
          intro tally state
          dsimp only
          split
          · exact .pure _
          · apply Settles.round_bind
            apply Settles.bind (settle _)
            intro flow
            rcases flow with _ | (_ | _) | _ | _
            · apply Settles.bind (.of_uncounted (.advance index step))
              intro _
              apply induction
              · omega
              · omega
            all_goals exact .pure _

theorem settles_eachLoop (settle : BodySettles setup limiter body fuelledBody) (index : String)
    (items : List Value) :
    Settles setup limiter least (eachLoop body index items)
      (Fuelled.eachLoop fuelledBody index items) := by
  induction items generalizing least with
  | nil =>
      rw [eachLoop, Fuelled.eachLoop]
      exact .pure _
  | cons item rest induction =>
      rw [eachLoop, Fuelled.eachLoop]
      apply Settles.round_bind
      apply Settles.bind (.of_uncounted (.store index item))
      intro _
      apply Settles.bind (settle _)
      intro flow
      rcases flow with _ | (_ | _) | _ | _
      · exact induction
      all_goals exact .pure _

theorem settles_goesOn (settle : CallsSettle setup limiter calls fuelledCalls)
    (condition : Option (LoopTest × LoopExpr)) (least : Nat) (tested : Bool) :
    Settles setup limiter least (testWhen tested (goesOn calls condition))
      (Fuelled.goesOn fuelledCalls tested condition) := by
  unfold Fuelled.goesOn
  cases tested with
  | false => exact .pure _
  | true =>
      rcases condition with _ | ⟨_ | _, condition⟩
      · exact .pure _
      all_goals
        apply Settles.bind (settles_evaluate settle condition)
        intro value
        apply Settles.get_bind
        intro tally state
        exact .pure _

theorem settles_conditionalLoop (settle : BodySettles setup limiter body fuelledBody)
    {condition : Machine Bool} {goesOn : Bool → Fuelled Bool}
    (settleCondition : ∀ least tested,
      Settles setup limiter least (testWhen tested condition) (goesOn tested))
    (testFirst : Bool) {left fuel : Nat} (enough : setup.maxIterations < least + left)
    (fuelled : setup.maxIterations < least + fuel) :
    Settles setup limiter least (conditionalLoop body condition testFirst left)
      (Fuelled.conditionalLoop fuelledBody goesOn testFirst fuel) := by
  induction left generalizing least fuel with
  | zero => exact settles_of_lt enough
  | succ left induction =>
      cases fuel with
      | zero => exact settles_of_lt fuelled
      | succ fuel =>
          rw [conditionalLoop, Fuelled.conditionalLoop]
          apply Settles.bind (settleCondition least testFirst)
          intro goesOn
          cases goesOn with
          | false => exact .pure _
          | true =>
              apply Settles.round_bind
              apply Settles.bind (settle _)
              intro flow
              rcases flow with _ | (_ | _) | _ | _
              · apply Settles.bind (settleCondition _ !testFirst)
                intro goesOn
                cases goesOn with
                | false => exact .pure _
                | true =>
                    apply induction
                    · omega
                    · omega
              all_goals exact .pure _

/-! ## Statements -/

variable {fuel : Nat}

mutual

theorem settles_execute (settle : CallsSettle setup limiter calls fuelledCalls)
    (enough : setup.maxIterations < fuel) (nested : Bool) (guard : Guard) :
    ∀ (least : Nat) (statement : LoopStatement),
      Settles setup limiter least (execute calls nested guard statement)
        (Fuelled.execute fuelledCalls fuel nested guard statement)
  | least, .dim declarations => by
      rw [execute, Fuelled.execute]
      apply Settles.tick_bind
      apply Settles.bind (settles_declareAll settle declarations)
      intro _
      exact .pure _
  | least, .assign name value => by
      rw [execute, Fuelled.execute]
      apply Settles.tick_bind
      apply Settles.bind (settles_evaluate settle value)
      intro value
      apply Settles.bind (.of_uncounted (.store name value))
      intro _
      exact .pure _
  | least, .assignElement name indices value => by
      rw [execute, Fuelled.execute]
      apply Settles.tick_bind
      apply Settles.bind (settles_assignElement settle name indices value)
      intro _
      exact .pure _
  | least, .overwrite name start length value => by
      rw [execute, Fuelled.execute]
      apply Settles.tick_bind
      apply Settles.bind (settles_overwriteText settle name start length value)
      intro _
      exact .pure _
  | least, .evaluate expression => by
      rw [execute, Fuelled.execute]
      apply Settles.tick_bind
      apply Settles.bind (settles_evaluate settle expression)
      intro _
      exact .pure _
  | least, .branch arms otherwise => by
      rw [execute, Fuelled.execute]
      apply Settles.tick_bind
      apply settles_executeArms settle enough nested guard least
      exact settles_executeBlock settle enough nested guard least otherwise
  | least, .forRange index start finish step body => by
      rw [execute, Fuelled.execute]
      apply Settles.tick_bind
      apply Settles.bind (settles_evaluate settle start)
      intro start
      apply Settles.bind (settles_evaluate settle finish)
      intro finish
      apply Settles.bind (settles_evaluateOptional settle step)
      intro step
      apply Settles.bind (.of_uncounted (.store index _))
      intro _
      apply Settles.read_bind
      apply settles_rangeLoop
      · intro least
        exact settles_executeBlock settle enough true (bodyGuard nested) least body
      · omega
      · omega
  | least, .forEach index items body => by
      rw [execute, Fuelled.execute]
      apply Settles.tick_bind
      apply Settles.bind (settles_evaluate settle items)
      intro items
      apply Settles.bind (.of_uncounted (.get_bind fun _ => .lift _))
      intro items
      apply settles_eachLoop
      intro least
      exact settles_executeBlock settle enough true (bodyGuard nested) least body
  | least, .conditional condition testFirst body => by
      rw [execute, Fuelled.execute]
      apply Settles.tick_bind
      apply Settles.read_bind
      apply settles_conditionalLoop
      · intro least
        exact settles_executeBlock settle enough true (bodyGuard nested) least body
      · exact settles_goesOn settle condition
      · omega
      · omega
  | least, .break kind => by
      rw [execute, Fuelled.execute]
      apply Settles.tick_bind
      exact .pure _
  | least, .return => by
      rw [execute, Fuelled.execute]
      apply Settles.tick_bind
      exact .pure _

theorem settles_executeArms (settle : CallsSettle setup limiter calls fuelledCalls)
    (enough : setup.maxIterations < fuel) (nested : Bool) (guard : Guard) (least : Nat)
    {otherwise : Machine Flow} {fuelledOtherwise : Fuelled Flow}
    (settleOtherwise : Settles setup limiter least otherwise fuelledOtherwise) :
    ∀ arms : List LoopArm,
      Settles setup limiter least (executeArms calls nested guard otherwise arms)
        (Fuelled.executeArms fuelledCalls fuel nested guard fuelledOtherwise arms)
  | [] => by
      rw [executeArms, Fuelled.executeArms]
      exact settleOtherwise
  | arm :: rest => by
      rw [executeArms, Fuelled.executeArms]
      apply settles_executeArm settle enough nested guard least
      exact settles_executeArms settle enough nested guard least settleOtherwise rest

theorem settles_executeArm (settle : CallsSettle setup limiter calls fuelledCalls)
    (enough : setup.maxIterations < fuel) (nested : Bool) (guard : Guard) (least : Nat)
    {otherwise : Machine Flow} {fuelledOtherwise : Fuelled Flow}
    (settleOtherwise : Settles setup limiter least otherwise fuelledOtherwise) :
    ∀ arm : LoopArm,
      Settles setup limiter least (executeArm calls nested guard otherwise arm)
        (Fuelled.executeArm fuelledCalls fuel nested guard fuelledOtherwise arm)
  | .mk condition body => by
      rw [executeArm, Fuelled.executeArm]
      apply Settles.bind (settles_evaluate settle condition)
      intro value
      apply Settles.get_bind
      intro tally state
      dsimp only
      split
      · exact settles_executeBlock settle enough nested guard least body
      · exact settleOtherwise

theorem settles_executeBlock (settle : CallsSettle setup limiter calls fuelledCalls)
    (enough : setup.maxIterations < fuel) (nested : Bool) (guard : Guard) :
    ∀ (least : Nat) (statements : List LoopStatement),
      Settles setup limiter least (executeBlock calls nested guard statements)
        (Fuelled.executeBlock fuelledCalls fuel nested guard statements)
  | least, [] => by
      rw [executeBlock, Fuelled.executeBlock]
      exact .pure _
  | least, statement :: rest => by
      rw [executeBlock, Fuelled.executeBlock]
      apply Settles.bind (.guarded (settles_execute settle enough nested guard least statement))
      intro flow
      cases flow with
      | normal => exact settles_executeBlock settle enough nested guard least rest
      | _ => exact .pure _

end

/-! ## Calls -/

theorem settles_runFunction (settle : CallsSettle setup limiter calls fuelledCalls)
    (enough : setup.maxIterations < fuel) (function : LoopFunction) (arguments : List Value) :
    Settles setup limiter least (runFunction calls function arguments)
      (Fuelled.runFunction fuelledCalls fuel function arguments) := by
  unfold runFunction Fuelled.runFunction
  apply Settles.bind (.of_uncounted (.bindResult function))
  intro _
  apply Settles.bind (.of_uncounted (.bindParameters _ _))
  intro _
  apply Settles.bind (settles_executeBlock settle enough true .skip least function.body)
  intro _
  apply Settles.of_uncounted
  exact fun _ _ => ⟨rfl, rfl, rfl⟩

theorem Counted.left {entered : Limiter} {pending : Nat} {tally : Tally} {before after : State}
    (counted : Counted setup entered least pending tally after)
    (sameLimiter : before.limiter = { limiter with ticks := before.limiter.ticks })
    (enters : before.limiter.enter = .ok entered) :
    Counted setup limiter least pending tally
      { after with locals := before.locals, limiter := after.limiter.leave } := by
  refine { counted with limiter := ?_ }
  have depth := leave_of_entered enters counted.limiter
  rw [sameLimiter] at depth
  exact depth

theorem settles_callFunction (enoughFuel : setup.maxIterations < fuel) {left deep : Nat}
    (enough : limiter.maxDepth ≤ limiter.depth + left)
    (deepEnough : limiter.maxDepth ≤ limiter.depth + deep) :
    CallsSettle setup limiter (callFunction left) (Fuelled.callFunction fuel deep) := by
  induction left generalizing limiter deep with
  | zero =>
      intro least name arguments tally state counted
      obtain ⟨sameDepth, sameMaxDepth⟩ := counted.sameDepths
      -- No call is left, so the limiter refuses this one.
      have enters : state.limiter.enter = .error (.recursionLimit (state.limiter.depth + 1)) := by
        apply if_pos
        omega
      unfold callFunction Fuelled.callFunction
      dsimp only
      cases setup.program.functions.get? name with
      | none => exact Settles.of_uncounted (.raise _) tally state counted
      | some function =>
          dsimp only
          rw [enters]
          exact Settles.of_uncounted (.raise _) tally state counted
  | succ left induction =>
      intro least name arguments tally state counted
      obtain ⟨sameDepth, sameMaxDepth⟩ := counted.sameDepths
      unfold callFunction Fuelled.callFunction
      dsimp only
      cases setup.program.functions.get? name with
      | none => exact Settles.of_uncounted (.raise _) tally state counted
      | some function =>
          dsimp only
          cases enters : state.limiter.enter with
          | error fault => exact Settles.of_uncounted (.raise fault) tally state counted
          | ok entered =>
              obtain ⟨sameEntered, deeper⟩ := Limiter.eq_of_enter enters
              cases deep with
              | zero =>
                  -- The limiter has let the call in, so it cannot be too deep.
                  omega
              | succ deep =>
                  have settle : CallsSettle setup entered (callFunction left)
                      (Fuelled.callFunction fuel deep) := by
                    apply induction
                    · rw [sameEntered]
                      dsimp only
                      omega
                    · rw [sameEntered]
                      dsimp only
                      omega
                  have ended := settles_runFunction settle enoughFuel function arguments tally
                    { state with limiter := entered, locals := some {} }
                    { counted with limiter := rfl }
                  dsimp only
                  split <;> rename_i ran <;> rw [ran] at ended
                  · obtain ⟨tallyAfter, same, countedAfter⟩ := ended
                    rw [same]
                    exact ⟨tallyAfter, rfl, countedAfter.left counted.limiter enters⟩
                  · rename_i stop after
                    obtain ⟨tallyAfter, same, counts⟩ := ended
                    rw [same]
                    refine ⟨tallyAfter, rfl, ?_⟩
                    cases stop with
                    | fault fault =>
                        have pending : Counted setup entered least 1 tallyAfter after := counts
                        exact pending.left counted.limiter enters
                    | halt reason =>
                        exact ⟨⟨counts.1.rounds, counts.1.absorbed, counts.1.faults⟩, counts.2⟩

end

/-! ## Runs -/

def Setup.of (program : LoopProgram) (policy : Policy) : Setup :=
  { program, maxIterations := policy.maxCompiledIterations, maxFaults := policy.maxLoopFaults }

theorem counted_start (program : LoopProgram) (policy : Policy) (heap : Heap) (limiter : Limiter) :
    Counted (.of program policy) limiter 0 0 {} (start program heap limiter) :=
  ⟨⟨rfl, rfl, rfl⟩, Nat.zero_le _, Nat.zero_le _, Nat.zero_le _, rfl⟩

/-- Fuel for more rounds than the policy allows, and for as many calls as the limiter allows, is enough. -/
theorem endAlike_body (program : LoopProgram) (policy : Policy) (heap : Heap) (limiter : Limiter) :
    ∃ enough, ∀ fuel ≥ enough,
      EndAlike (.of program policy) limiter 0
        (execute (callFunction (limiter.maxDepth - limiter.depth)) false .skip program.body
          (.of program policy) (start program heap limiter))
        (Fuelled.execute (Fuelled.callFunction fuel fuel) fuel false .skip program.body
          (.of program policy) ({}, start program heap limiter)) := by
  refine ⟨max (policy.maxCompiledIterations + 1) (limiter.maxDepth - limiter.depth), ?_⟩
  intro fuel fuelled
  have enough : policy.maxCompiledIterations < fuel := by omega
  have deepEnough : limiter.maxDepth ≤ limiter.depth + fuel := by omega
  have settle : CallsSettle (.of program policy) limiter
      (callFunction (limiter.maxDepth - limiter.depth)) (Fuelled.callFunction fuel fuel) := by
    apply settles_callFunction enough _ deepEnough
    omega
  apply settles_execute settle enough
  exact counted_start program policy heap limiter

/-- Every run ends, and within its budgets: with any fuel that is enough, the machine with fuel has a
result, which is that of the machine. If the run ends well, no more rounds were begun and no more faults
occurred than the policy allows. It is a runaway if and only if more rounds were begun or more faults were
absorbed. -/
theorem run_ends_within_budgets (program : LoopProgram) (policy : Policy) (heap : Heap)
    (limiter : Limiter) :
    ∃ (enough : Nat) (tally : Tally),
      (∀ fuel ≥ enough, Fuelled.run fuel program policy heap limiter =
        some (run program policy heap limiter, tally)) ∧
      (∀ result, (run program policy heap limiter).1 = .ok result →
        tally.rounds ≤ policy.maxCompiledIterations ∧ tally.faults ≤ policy.maxLoopFaults) ∧
      ((run program policy heap limiter).1 = .error .runaway ↔
        policy.maxCompiledIterations < tally.rounds ∨ policy.maxLoopFaults < tally.absorbed) := by
  obtain ⟨enough, ends⟩ := endAlike_body program policy heap limiter
  have ended := ends enough (Nat.le_refl enough)
  have sameEnd (fuel : Nat) (fuelled : fuel ≥ enough) := (ends fuel fuelled).unique ended
  unfold Setup.of at ended sameEnd
  unfold Fuelled.run run
  dsimp only
  -- The body ends by itself, by a halt of the machine, or with a fault that nothing absorbed.
  split <;> rename_i ran <;> rw [ran] at ended
  · obtain ⟨tally, same, counted⟩ := ended
    refine ⟨enough, tally, ?_, ?_, iff_of_false (by simp) counted.not_exceeds⟩
    · intro fuel fuelled
      rw [sameEnd fuel fuelled, same]
      rfl
    · intro _ _
      exact ⟨counted.withinRounds, counted.faults ▸ counted.withinFaults⟩
  · obtain ⟨tally, same, counts⟩ := ended
    refine ⟨enough, tally, ?_, nofun, ?_⟩
    · intro fuel fuelled
      rw [sameEnd fuel fuelled, same]
      rfl
    · rw [Except.error.injEq]
      exact counts.2
  · obtain ⟨tally, same, counts⟩ := ended
    have pending : Counted (.of program policy) limiter 0 1 tally _ := counts
    refine ⟨enough, tally, ?_, nofun, iff_of_false (by simp) pending.not_exceeds⟩
    intro fuel fuelled
    rw [sameEnd fuel fuelled, same]
    rfl

end Machine

end MacroSandbox
