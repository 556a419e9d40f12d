import MacroSandbox.Proofs.LoweredPrograms

/-! Which updates of a compiled loop reach its caller.

What a program may assign is decided by its statements, and what goes back to the caller by a search
through the source for written names. The search knows fewer ways to write a variable than the
machine, so some updates are lost: exactly those that it overlooks. -/

namespace MacroSandbox

/-! ## What a program assigns -/

/-- A statement of a program may bind a variable of the program or assign to it. Declarations in a
function bind names of the function. -/
def LoopProgram.Assigns (program : LoopProgram) (name : String) : Prop :=
  name ∈ program.body.targets true ∨
    ∃ key function, program.functions.get? key = some function ∧
      name ∈ LoopStatement.targetsOfBlock false function.body

namespace Machine

theorem get?_store_of_not_assigns {program : LoopProgram} {name : String}
    (notAssigned : ¬ program.Assigns name) (policy : Policy) (heap : Heap) (limiter : Limiter) :
    (run program policy heap limiter).2.store.get? name =
      (start program heap limiter).store.get? name :=
  (confined_run program policy heap limiter program.Assigns (fun _ => .inl)
    (fun key function found _ inside => .inr ⟨key, function, found, inside⟩)).kept name notAssigned

theorem mem_updates_of_run {program : LoopProgram} {policy : Policy} {heap : Heap}
    {limiter : Limiter} {result : LoopResult} {final : State} {name : String} {value : Value}
    (ran : run program policy heap limiter = (.ok result, final))
    (bound : final.store.get? name = some value) :
    (name, final.heap.contents value) ∈ result.updates ↔ name ∈ program.captures := by
  have isResult : result = Machine.result program final := by
    unfold run at ran
    dsimp only at ran
    split at ran <;> cases ran
    rfl
  rw [isResult, Machine.result]
  simp only [List.mem_filterMap, Std.TreeSet.mem_toList, Option.map_eq_some_iff, Prod.mk.injEq]
  constructor
  · rintro ⟨captured, inside, _, _, rfl, _⟩
    exact inside
  · intro inside
    exact ⟨name, inside, value, bound, rfl, rfl⟩

end Machine

/-! ## What the search overlooks -/

namespace Caller

variable {caller : Caller} {loop : Statement} {name : String}

/-- The ways to write a variable that the search does not follow. -/
inductive WritesUnseen (caller : Caller) (loop : Statement) (name : String) : Prop
  /-- The loop writes a name without a value that a function has, too. -/
  | callable (written : name ∈ (Node.statement loop).writes)
      (isCallable : caller.isCallable name = true)
  | declared (isDeclared : name ∈ (Node.statement loop).declaredNames)
  /-- The loop overwrites a part of the variable with `Mid$`. -/
  | dollar (node : Node) (inside : node ∈ (Node.statement loop).nodes)
      (overwrites : node.dollarTarget? = some name)
  /-- A procedure that the loop may call does so. -/
  | dollarInProcedure (procedure : Procedure)
      (reached : procedure ∈ (Node.statement loop).reachableProcedures caller.scope) (node : Node)
      (inside : node ∈ Statement.nodesOfList procedure.body)
      (overwrites : node.dollarTarget? = some name)
  /-- A procedure that the loop may call writes a name that passes for one of its own, or that has
  no value in the module. -/
  | unknownInProcedure (procedure : Procedure)
      (reached : procedure ∈ (Node.statement loop).reachableProcedures caller.scope)
      (written : name ∈ (Node.procedure procedure).writes)
      (isUnknown : ¬ caller.SeesWrite procedure name)

/-- The updates of a variable are overlooked: it is written in a way that the search does not
follow, and nothing else records it. -/
def Overlooks (caller : Caller) (loop : Statement) (name : String) : Prop :=
  caller.WritesUnseen loop name ∧ ¬ caller.Records loop name

theorem mem_writes_of_mem {part node : Node} (inside : node ∈ part.nodes)
    (written : node.writtenName? = some name) : name ∈ part.writes :=
  List.mem_filterMap.2 ⟨node, inside, written⟩

theorem records_or_writesUnseen_of_touches {node : Node} (inside : node ∈ (Node.statement loop).nodes)
    (touches : node.Touches true name) :
    caller.Records loop name ∨ caller.WritesUnseen loop name := by
  rcases touches with written | overwritten | ⟨-, declared⟩
  · have inLoop : name ∈ (Node.statement loop).writes := mem_writes_of_mem inside written
    cases callable : caller.isCallable name with
    | false => exact .inl (.inl ⟨inLoop, callable⟩)
    | true => exact .inr (.callable inLoop callable)
  · exact .inr (.dollar node inside overwritten)
  · refine .inr (.declared (List.mem_flatMap.2 ⟨node, inside, ?_⟩))
    exact declared

theorem records_or_writesUnseen_of_procedure_touches {procedure : Procedure}
    (reached : procedure ∈ (Node.statement loop).reachableProcedures caller.scope) {node : Node}
    (inside : node ∈ Statement.nodesOfList procedure.body) (touches : node.Touches false name) :
    caller.Records loop name ∨ caller.WritesUnseen loop name := by
  rcases touches with written | overwritten | ⟨impossible, -⟩
  · have inProcedure : name ∈ (Node.procedure procedure).writes :=
      mem_writes_of_mem (Node.mem_nodes_of_body (fun _ => .ofBody) inside) written
    by_cases seen : caller.SeesWrite procedure name
    · exact .inl (.inr (.inr ⟨procedure, reached, seen⟩))
    · exact .inr (.unknownInProcedure procedure reached inProcedure seen)
  · exact .inr (.dollarInProcedure procedure reached node inside overwritten)
  · cases impossible

theorem records_or_writesUnseen_of_assigns {lowered : Lowered}
    (lowers : caller.lower? loop = some lowered) (assigned : lowered.program.Assigns name) :
    caller.Records loop name ∨ caller.WritesUnseen loop name := by
  obtain ⟨steps⟩ := steps_of_lower? lowers
  rcases assigned with inBody | ⟨key, function, found, inFunction⟩
  · obtain ⟨node, inside, touches⟩ :=
      LoweringContext.exists_touches_of_lowerStatement? loop steps.lowersBody inBody
    exact records_or_writesUnseen_of_touches inside touches
  · obtain ⟨procedure, reached, lowersProcedure⟩ := exists_of_functions_get? steps found
    simp only [LoweringContext.lowerProcedure?, Option.map_eq_some_iff] at lowersProcedure
    obtain ⟨body, lowersBody, rfl⟩ := lowersProcedure
    obtain ⟨node, inside, touches⟩ :=
      LoweringContext.exists_touches_of_lowerBlock? procedure.body lowersBody inFunction
    exact records_or_writesUnseen_of_procedure_touches reached inside touches

end Caller

/-! ## Lost updates -/

/-- A variable that the program of a loop may assign, or whose value at the end of a run is not its
first value, goes back to the caller with its final value exactly if the search did not overlook
it. -/
theorem Machine.captured_iff_not_overlooked {caller : Caller} {loop : Statement}
    {lowered : Lowered} {policy : Policy} {limiter : Limiter} {result : LoopResult}
    {final : Machine.State} {name : String} {value : Value}
    (lowers : caller.lower? loop = some lowered)
    (ran : Machine.run lowered.program policy caller.heap limiter = (.ok result, final))
    (bound : final.store.get? name = some value)
    (changed : lowered.program.Assigns name ∨
      (Machine.start lowered.program caller.heap limiter).store.get? name ≠ some value) :
    (name ∈ lowered.program.captures ↔ ¬ caller.Overlooks loop name) ∧
      ((name, final.heap.contents value) ∈ result.updates ↔ ¬ caller.Overlooks loop name) := by
  have assigned : lowered.program.Assigns name := by
    rcases changed with assigned | differs
    · exact assigned
    · refine Classical.byContradiction fun notAssigned => differs ?_
      rw [← get?_store_of_not_assigns notAssigned policy caller.heap limiter, ran]
      exact bound
  obtain ⟨steps⟩ := Caller.steps_of_lower? lowers
  have captured : name ∈ lowered.program.captures ↔ ¬ caller.Overlooks loop name := by
    rw [Caller.mem_captures_iff steps]
    constructor
    · intro records overlooked
      exact overlooked.2 records
    · intro seen
      rcases Caller.records_or_writesUnseen_of_assigns lowers assigned with records | unseen
      · exact records
      · exact Classical.byContradiction fun notRecorded => seen ⟨unseen, notRecorded⟩
  exact ⟨captured, (mem_updates_of_run ran bound).trans captured⟩

private def overwritingLoop (name : String) : Statement :=
  .forRange "i" (.literal (.integer 1)) (.literal (.integer 1)) none
    [.assign (.call (.var name) [.var "s", .literal (.integer 1), .literal (.integer 1)])
      (.literal (.text "X"))]

private def overwritingCaller : Caller :=
  { environment := { library := {}, constants := {} }
    heap := {}
    globals := NameMap.ofList [("s", .value (.text "abc"))]
    frame := {} }

private def overwritingRun (lowered : Lowered) : Except Machine.Halt LoopResult × Machine.State :=
  Machine.run lowered.program {} overwritingCaller.heap (Policy.limiter {})

private def holdsText (content : String) : Option Value → Bool
  | some (.text held) => held == content
  | _ => false

private theorem eq_of_holdsText {content : String} {held : Option Value}
    (holds : holdsText content held = true) : held = some (.text content) := by
  unfold holdsText at holds
  split at holds
  · rw [eq_of_beq holds]
  · cases holds

private def overwritesText (name : String) (isRecorded : Bool) : Bool :=
  match overwritingCaller.lower? (overwritingLoop name) with
  | none => false
  | some lowered =>
      let ran := overwritingRun lowered
      ran.1.toBool && holdsText "Xbc" (ran.2.store.get? "s") &&
        holdsText "abc" ((Machine.start lowered.program overwritingCaller.heap
          (Policy.limiter {})).store.get? "s") &&
        lowered.program.captures.contains "s" == isRecorded

private theorem exists_of_overwritesText {name : String} {isRecorded : Bool}
    (overwrites : overwritesText name isRecorded = true) :
    ∃ lowered result, ∃ final : Machine.State,
      overwritingCaller.lower? (overwritingLoop name) = some lowered ∧
        Machine.run lowered.program {} overwritingCaller.heap (Policy.limiter {}) =
          (.ok result, final) ∧
        final.store.get? "s" = some (.text "Xbc") ∧
        (Machine.start lowered.program overwritingCaller.heap (Policy.limiter {})).store.get? "s" =
          some (.text "abc") ∧
        ("s" ∈ lowered.program.captures ↔ isRecorded = true) := by
  unfold overwritesText at overwrites
  split at overwrites
  · cases overwrites
  · rename_i lowered lowers
    simp only [Bool.and_eq_true, beq_iff_eq] at overwrites
    obtain ⟨⟨⟨endsWell, bound⟩, before⟩, recorded⟩ := overwrites
    cases ended : (overwritingRun lowered).1 with
    | error halt =>
        rw [ended] at endsWell
        cases endsWell
    | ok result =>
        exact ⟨lowered, result, (overwritingRun lowered).2, lowers, by rw [← ended]; rfl,
          eq_of_holdsText bound, eq_of_holdsText before, by
            rw [← recorded, Std.TreeSet.contains_iff_mem]⟩

set_option maxRecDepth 100000 in
/-- An update with `Mid` goes back to the caller. -/
theorem Machine.overwritten_text_captured :
    ∃ lowered result, ∃ final : Machine.State,
      overwritingCaller.lower? (overwritingLoop "Mid") = some lowered ∧
        Machine.run lowered.program {} overwritingCaller.heap (Policy.limiter {}) =
          (.ok result, final) ∧
        final.store.get? "s" = some (.text "Xbc") ∧
        (Machine.start lowered.program overwritingCaller.heap (Policy.limiter {})).store.get? "s" =
          some (.text "abc") ∧
        ¬ overwritingCaller.Overlooks (overwritingLoop "Mid") "s" ∧
        ("s", .text "Xbc") ∈ result.updates := by
  obtain ⟨lowered, result, final, lowers, ran, bound, before, recorded⟩ :=
    exists_of_overwritesText (by decide +kernel : overwritesText "Mid" true = true)
  have seen := Machine.captured_iff_not_overlooked lowers ran bound (.inr (by rw [before]; simp))
  have noticed := seen.1.1 (recorded.2 rfl)
  exact ⟨lowered, result, final, lowers, ran, bound, before, noticed, seen.2.2 noticed⟩

set_option maxRecDepth 100000 in
/-- An update with `Mid$` is overlooked, and so it is lost. -/
theorem Machine.overwritten_text_not_captured :
    ∃ lowered result, ∃ final : Machine.State,
      overwritingCaller.lower? (overwritingLoop "Mid$") = some lowered ∧
        Machine.run lowered.program {} overwritingCaller.heap (Policy.limiter {}) =
          (.ok result, final) ∧
        final.store.get? "s" = some (.text "Xbc") ∧
        (Machine.start lowered.program overwritingCaller.heap (Policy.limiter {})).store.get? "s" =
          some (.text "abc") ∧
        "s" ∉ lowered.program.captures ∧ ("s", .text "Xbc") ∉ result.updates := by
  obtain ⟨lowered, result, final, lowers, ran, bound, before, recorded⟩ :=
    exists_of_overwritesText (by decide +kernel : overwritesText "Mid$" false = true)
  have lost : "s" ∉ lowered.program.captures := fun inside => Bool.noConfusion (recorded.1 inside)
  exact ⟨lowered, result, final, lowers, ran, bound, before, lost,
    fun inside => lost ((Machine.mem_updates_of_run ran bound).1 inside)⟩

end MacroSandbox
