import MacroSandbox.Proofs.LoopCache
import MacroSandbox.Proofs.LoopResults
import MacroSandbox.Proofs.NameStems

/-! Lists that are shared go on to be shared by compiled loops.

A program has a list of its own for every name, and the items of these lists are written to the lists
that the names mean, one after the other. Names that no loop has see the result in any case. Only if a
loop writes a list under one name and uses it under another one, too, the interpreter works on one list
where the program works on two. -/

namespace MacroSandbox

/-! ## Lists that names mean -/

namespace Scope

def reference? (scope : Scope) (name : String) : Option Value :=
  (scope.get? name).filter Value.isReference

/-- Exact names have the same values in two scopes, unless they are plain and mean no reference in
either of them. -/
structure AgreesOnReferences (scope other : Scope) : Prop where
  receiver : scope.receiver = other.receiver
  values : ∀ name, scope.value? name = other.value? name ∨
    IsPlainName name ∧ (∀ value, scope.value? name = some value → value.isReference = false) ∧
      ∀ value, other.value? name = some value → value.isReference = false

def FindsNoReference (found : Option (Except Fault Found)) : Prop :=
  ∀ held, found = some (.ok held) → held.value.isReference = false

variable {scope other : Scope}

theorem findsNoReference_of_plain {name : String} (plain : IsPlainName name)
    (noReference : ∀ value, scope.value? name = some value → value.isReference = false)
    (steps : Nat) : FindsNoReference (scope.lookupWithin false steps name) := by
  intro held found
  cases steps with
  | zero => cases found
  | succ steps =>
      have noMember : scope.qualified? name = none := by
        rw [qualified?, plain.startsWith_dot]
        rfl
      have noDollar : Text.dropEnd? "$" name = none :=
        plain.dropEnd?_eq (by decide : isNameMark '$' = true) (by decide)
      simp only [lookupWithin, noMember, noDollar] at found
      split at found
      · rename_i bound isBound
        cases found
        exact noReference _ (by rw [value?, isBound]; rfl)
      · cases found

def FindAlike (found otherFound : Option (Except Fault Found)) : Prop :=
  found.map (·.map Found.value) = otherFound.map (·.map Found.value)

/-- The steps of a lookup after the first one, which looks for a member. -/
def lookupExactly (scope : Scope) (steps : Nat) (name : String) : Option (Except Fault Found) :=
  match scope.bound? false name with
  | some found => some (.ok found)
  | none =>
    match Text.dropEnd? "$" name with
    | some stripped => scope.lookupWithin false steps stripped
    | none => some (.error (.undefinedVariable name))

theorem lookupWithin_succ (scope : Scope) (steps : Nat) (name : String) :
    scope.lookupWithin false (steps + 1) name =
      match scope.qualified? name with
      | none => scope.lookupExactly steps name
      | some full =>
          match scope.lookupWithin false steps full with
          | none => none
          | some (.ok found) => some (.ok found)
          | some (.error _) => scope.lookupExactly steps name := by
  rw [lookupWithin]
  cases scope.qualified? name with
  | none => rfl
  | some full =>
      cases scope.lookupWithin false steps full with
      | none => rfl
      | some found => cases found <;> rfl

theorem not_isDotFree_of_qualified? {name full : String}
    (isMember : scope.qualified? name = some full) : ¬ IsDotFree full := by
  unfold qualified? at isMember
  split at isMember
  · rename_i starts
    obtain ⟨object, _, rfl⟩ := Option.map_eq_some_iff.1 isMember
    rw [Text.startsWith_iff] at starts
    intro dotFree
    refine dotFree ?_
    rw [String.toList_append]
    exact List.mem_append_right _ (starts.subset (by decide))
  · cases isMember

theorem isDotFree_of_dropEnd? {name rest : String} (dropped : Text.dropEnd? "$" name = some rest)
    (dotFree : IsDotFree rest) : IsDotFree name := by
  rw [IsDotFree, Text.toList_eq_of_dropEnd? dropped, List.mem_append, not_or]
  exact ⟨dotFree, by decide⟩

/-- Lookups in scopes that agree find the same, or no reference for a name without a dot. -/
theorem AgreesOnReferences.lookupWithin (agrees : scope.AgreesOnReferences other) :
    ∀ (steps : Nat) (name : String),
      FindAlike (scope.lookupWithin false steps name) (other.lookupWithin false steps name) ∨
        IsDotFree name ∧ FindsNoReference (scope.lookupWithin false steps name) ∧
          FindsNoReference (other.lookupWithin false steps name)
  | 0, _ => .inl rfl
  | steps + 1, name => by
      rcases agrees.values name with same | ⟨plain, noReference, otherNoReference⟩
      rotate_left
      · refine .inr ⟨plain.isDotFree, ?_, ?_⟩
        · exact findsNoReference_of_plain plain noReference _
        · exact findsNoReference_of_plain plain otherNoReference _
      have exactly : FindAlike (scope.lookupExactly steps name) (other.lookupExactly steps name) ∨
          IsDotFree name ∧ FindsNoReference (scope.lookupExactly steps name) ∧
            FindsNoReference (other.lookupExactly steps name) := by
        simp only [value?] at same
        unfold lookupExactly
        cases bound : scope.bound? false name <;> cases otherBound : other.bound? false name <;>
          rw [bound, otherBound] at same
        · cases dropped : Text.dropEnd? "$" name with
          | none => exact .inl rfl
          | some rest =>
              exact (agrees.lookupWithin steps rest).imp_right fun nothing =>
                ⟨isDotFree_of_dropEnd? dropped nothing.1, nothing.2⟩
        · cases same
        · cases same
        · exact .inl (by simpa [FindAlike, Except.map] using same)
      have sameMember : other.qualified? name = scope.qualified? name := by
        rw [qualified?, qualified?, agrees.receiver]
      rw [lookupWithin_succ, lookupWithin_succ, sameMember]
      cases member : scope.qualified? name with
      | none => exact exactly
      | some full =>
          have alike := (agrees.lookupWithin steps full).resolve_right fun nothing =>
            not_isDotFree_of_qualified? member nothing.1
          dsimp only
          cases found : scope.lookupWithin false steps full <;>
            cases otherFound : other.lookupWithin false steps full <;>
            rw [found, otherFound] at alike
          · exact .inl rfl
          · cases alike
          · cases alike
          · rename_i held otherHeld
            cases held <;> cases otherHeld
            · exact exactly
            · cases alike
            · cases alike
            · exact .inl alike

theorem AgreesOnReferences.reference?_eq (agrees : scope.AgreesOnReferences other)
    (name : String) : scope.reference? name = other.reference? name := by
  have alike := agrees.lookupWithin (steps (Text.trim name)) (Text.trim name)
  simp only [reference?, get?, get, lookup]
  generalize scope.lookupWithin false (steps (Text.trim name)) (Text.trim name) = found at alike
  generalize other.lookupWithin false (steps (Text.trim name)) (Text.trim name) = otherFound at alike
  rcases alike with same | ⟨_, nothing, otherNothing⟩
  · cases found <;> cases otherFound
    · rfl
    · cases same
    · cases same
    · simp only [FindAlike, Option.map_some, Option.some.injEq] at same
      simp only [Option.getD_some, same]
  · have noReference {found : Option (Except Fault Found)} (nothing : FindsNoReference found)
        (fault : Fault) :
        ((found.getD (.error fault)).map Found.value).toOption.filter Value.isReference = none := by
      rcases found with _ | _ | held
      · rfl
      · rfl
      · show (some held.value).filter Value.isReference = none
        rw [Option.filter_some, if_neg (by rw [nothing held rfl]; exact Bool.false_ne_true)]
    rw [noReference nothing, noReference otherNothing]

end Scope

/-! ## Compiled loops -/

/-- What one state has in its lists and maps, the other one reads under the same names: names mean the
same lists and maps in both, and these hold the same in both. -/
structure State.ReadsSameLists (environment : Environment) (state other : State) : Prop where
  references : ∀ name,
    (state.scope environment).reference? name = (other.scope environment).reference? name
  heap : other.heap.restrictTo state.heap = state.heap

namespace IsElementLoop

variable {environment : Environment} {state started interpreted returned : State} {loop : Statement}
  {constants : Value → Bool} {lowered : Lowered} {final : Machine.State}

theorem agreesOnReferences (element : IsElementLoop environment state loop constants)
    (lowers : (state.caller environment).lower? loop = some lowered)
    (inStep : (LoopPair.ofProgram environment state loop constants lowered.program).InStep
      ((state.caller environment).boundNames loop) interpreted final)
    (untouched : state.IsUntouched started)
    (isReturned : State.IsReturned environment final.heap final.store.get?
      lowered.program.captures.toList started returned) :
    (interpreted.scope environment).AgreesOnReferences (returned.scope environment) where
  receiver := by
    have sameInterpreted : interpreted.frame.receivers = state.frame.receivers := by
      rw [inStep.varies]
      rfl
    have sameReturned : returned.frame.receivers = state.frame.receivers := by
      rw [isReturned.varies, untouched]
    simp only [State.scope, Frame.receiverName?, sameInterpreted, sameReturned]
  values name := by
    rcases element.value?_of_isReturned lowers inStep untouched isReturned name with
      same | ⟨isScalar, value, scalar, written, meant⟩
    · exact .inl same.symm
    · refine .inr ⟨(element.flat.scalars _ isScalar).plainName.of_asciiLower, ?_, ?_⟩
      · intro held named
        rcases meant with ⟨means, _⟩ | ⟨unnamed, _⟩
        · obtain rfl := Option.some.inj (means.symm.trans named)
          exact scalar
        · cases unnamed.symm.trans named
      · intro held named
        obtain rfl := Option.some.inj (written.symm.trans named)
        exact Heap.isReference_coerceTo scalar

end IsElementLoop

namespace Eval

variable {environment : Environment} {state compiled : State} {loop : Statement}
  {constants : Value → Bool} {count : Nat}

/-- Lists that are shared go on to be shared. If the interpreter runs a loop over plain values and
elements of lists without a fault, and the program of the loop runs to its end, then all names read the
same lists afterwards, whatever other names these have: the written lists may have any names that the
loop does not use, and those that are read only may have other names in the loop, too. -/
theorem compileLoop_keeps_sharing (element : IsElementLoop environment state loop constants)
    (counts : loop.bodies? environment.interpreting Engine.maxNesting state = some count)
    (completes : offerLoop loop environment state = .ok .completed compiled) :
    ∃ interpreted,
      Eval.statement loop environment.interpreting state = .ok .continue interpreted ∧
        Eval.compileLoop loop environment state = .ok true compiled ∧
        State.ReadsSameLists environment interpreted compiled := by
  have settles : compileLoop loop environment state = .ok true compiled := by
    simp only [compileLoop, Running.run_bind, completes, Running.run_pure]
    rfl
  have offered := offerLoop_offered environment state loop
  rw [completes] at offered
  cases offered with
  | @completed lowered result ticks lowers unknown ran =>
      obtain ⟨_, stopped, _, isError⟩ | ⟨interpreted, final, interprets, runs, inStep⟩ :=
        element.runs lowers.lowers counts
      · rw [isError] at ran
        cases ran
      · rw [runs] at ran
        cases ran
        obtain ⟨returned, isReturned, merged⟩ :=
          element.isReturned_of_mergeResult lowers.lowers inStep (.refl state) rfl
        obtain ⟨sameScope, sameHeap, _⟩ :=
          @State.scope_mergeTypes environment returned lowered.certain
        refine ⟨interpreted, interprets, settles, fun name => ?_, ?_⟩
        · rw [merged]
          show _ = ((returned.mergeTypes lowered.certain).scope environment).reference? name
          rw [sameScope]
          exact (element.agreesOnReferences lowers.lowers inStep (.refl state)
            isReturned).reference?_eq name
        · rw [merged]
          show (returned.mergeTypes lowered.certain).heap.restrictTo _ = _
          rw [sameHeap]
          exact element.restrictTo_of_isReturned lowers.lowers inStep (.refl state) isReturned

private def sharingState : State :=
  let state := State.start {} none {} {}
  { state with
    heap := { lists := #[#[.integer 0, .integer 0], #[.integer 3, .integer 4]] }
    run.globals := NameMap.ofList
      [("a", .value (.list 0)), ("b", .value (.list 0)), ("c", .value (.list 1)),
        ("d", .value (.list 1))] }

private def element (name : String) (index : Expr) : Expr :=
  .call (.var name) [index]

/-- A loop that writes one list under one name and reads the other one under two. -/
private def addingLists : Statement :=
  .forRange "i" (.literal (.integer 0)) (.literal (.integer 1)) none
    [.assign (element "a" (.var "i")) (.binary .add (element "c" (.var "i")) (element "d" (.var "i")))]

private theorem holdsItems_sharing (name : String) (place : Nat)
    (plainName : IsPlainName name)
    (noProcedure : ((sharingState.scope {}).procedure? name).isNone = true)
    (bound : (sharingState.scope {}).get? name = some (.list place)) (known : place < 2) :
    (sharingState.caller {}).HoldsItems name place where
  plainName := plainName
  noProcedure := Option.isNone_iff_eq_none.1 noProcedure
  bound := bound
  owned := known
  areScalar := by
    have : ∀ place < 2, ∀ item ∈ sharingState.heap.list place, item.isReference = false := by
      decide +kernel
    exact this place known
  few := by
    have : ∀ place < 2, (sharingState.heap.list place).size ≤ maxAllocation := by decide +kernel
    exact this place known

set_option maxRecDepth 100000 in
private theorem isElementLoop_addingLists :
    IsElementLoop {} sharingState addingLists fun _ => false where
  isLoop := rfl
  computes := by decide +kernel
  flat :=
    { scalars := fun name isScalar => by
        have only : ∀ name ∈ (sharingState.caller {}).scalarNames addingLists, name = "i" := by
          decide +kernel
        obtain rfl := only name isScalar
        have unbound : (sharingState.caller {}).scope.get? "i" = none := by decide +kernel
        exact
          { plainName := by decide
            noProcedure := Option.isNone_iff_eq_none.1 (by decide +kernel)
            notCallable := by decide +kernel
            isPlain := fun value bound => by cases unbound.symm.trans bound }
      lists := fun name isList => by
        have only : (sharingState.caller {}).listNames addingLists = ["a", "c", "d"] := by
          decide +kernel
        rw [only] at isList
        simp only [List.mem_cons, List.not_mem_nil, or_false] at isList
        rcases isList with rfl | rfl | rfl
        · exact ⟨0, holdsItems_sharing "a" 0 (by decide) (by decide +kernel) (by decide +kernel)
            (by decide)⟩
        · exact ⟨1, holdsItems_sharing "c" 1 (by decide) (by decide +kernel) (by decide +kernel)
            (by decide)⟩
        · exact ⟨1, holdsItems_sharing "d" 1 (by decide) (by decide +kernel) (by decide +kernel)
            (by decide)⟩ }
  unshared := by decide +kernel
  toldApart := by constructor <;> (intro _ _ impossible; cases impossible)
  remembers _ impossible := by cases impossible
  noText := rfl
  notPending := by decide

private def itemsUnder (state : State) (name : String) : Option (Array Value) :=
  match (state.scope {}).get? name with
  | some (.list place) => some (state.heap.list place)
  | _ => none

private def readsUnder (name : String) (items : Array Value) (state : State) : Bool :=
  itemsUnder state name == some items

set_option maxRecDepth 100000 in
/-- The name that the loop does not know reads the sums. -/
theorem compileLoop_keeps_sharing_of_sums :
    ∃ interpreted compiled,
      Eval.statement addingLists (Environment.interpreting {}) sharingState =
          .ok .continue interpreted ∧
        compileLoop addingLists {} sharingState = .ok true compiled ∧
        State.ReadsSameLists {} interpreted compiled ∧
        itemsUnder compiled "b" = some #[.integer 6, .integer 8] := by
  obtain ⟨completes, sums⟩ :=
    outcome_and_after_of_endsWith (readsUnder "b" #[.integer 6, .integer 8])
      (by decide +kernel : (offerLoop addingLists).endsWith .completed _ {} sharingState = true)
  have ran : offerLoop addingLists {} sharingState =
      .ok .completed ((offerLoop addingLists).after {} sharingState) :=
    eq_ok_of_outcome completes
  obtain ⟨interpreted, interprets, compiles, same⟩ :=
    compileLoop_keeps_sharing isElementLoop_addingLists
      (by decide +kernel : addingLists.bodies? (Environment.interpreting {}) Engine.maxNesting
        sharingState = some 2) ran
  exact ⟨interpreted, _, interprets, compiles, same, eq_of_beq sums⟩

private def writingTwice : Statement :=
  .forRange "i" (.literal (.integer 1)) (.literal (.integer 1)) none
    [.assign (element "a" (.literal (.integer 0))) (.literal (.integer 1)),
      .assign (element "b" (.literal (.integer 1))) (.literal (.integer 2))]

set_option maxRecDepth 100000 in
/-- A list that is written under two names loses what was written under the first of them: the program
has a list for each name, and the second one is written back over the first one. -/
theorem compileLoop_loses_shared_write :
    (Eval.statement writingTwice).outcome (Environment.interpreting {}) sharingState =
        .ok .continue ∧
      itemsUnder ((Eval.statement writingTwice).after (Environment.interpreting {}) sharingState)
        "a" = some #[.integer 1, .integer 2] ∧
      (offerLoop writingTwice).outcome {} sharingState = .ok .completed ∧
      itemsUnder ((offerLoop writingTwice).after {} sharingState) "a" =
        some #[.integer 0, .integer 2] := by
  obtain ⟨interprets, written⟩ :=
    outcome_and_after_of_endsWith (readsUnder "a" #[.integer 1, .integer 2])
      (by decide +kernel : (Eval.statement writingTwice).endsWith .continue _
        (Environment.interpreting {}) sharingState = true)
  obtain ⟨completes, lost⟩ :=
    outcome_and_after_of_endsWith (readsUnder "a" #[.integer 0, .integer 2])
      (by decide +kernel : (offerLoop writingTwice).endsWith .completed _ {} sharingState = true)
  exact ⟨interprets, eq_of_beq written, completes, eq_of_beq lost⟩

end Eval

end MacroSandbox
