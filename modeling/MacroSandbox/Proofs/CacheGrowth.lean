import MacroSandbox.Proofs.Composition
import MacroSandbox.Proofs.ConstantValues
import MacroSandbox.Proofs.LoopCache

/-! What evaluations do to the caches: nothing that is remembered is forgotten or replaced, and every
value that is remembered stays the value of a constant expression. -/

namespace MacroSandbox

/-! ## Growth -/

namespace Caches

variable {before between after : Caches}

structure Grow (before after : Caches) : Prop where
  constants : ∀ source value, before.constants.get? source = some value →
    after.constants.get? source = some value
  loops : ∀ text entry, before.loops.get? text = some entry → after.loops.get? text = some entry

namespace Grow

theorem of_same (sameConstants : after.constants = before.constants)
    (sameLoops : after.loops = before.loops) : before.Grow after := by
  refine ⟨?_, ?_⟩
  · rw [sameConstants]
    exact fun _ _ found => found
  · rw [sameLoops]
    exact fun _ _ found => found

theorem trans (left : before.Grow between) (right : between.Grow after) : before.Grow after where
  constants := fun source value found => right.constants source value (left.constants _ _ found)
  loops := fun text entry found => right.loops text entry (left.loops _ _ found)

theorem constant? (source : String) : before.Grow (before.constant? source).2 :=
  of_same (before.constants_constant? source) (before.loops_constant? source)

theorem loop? (program : String) : before.Grow (before.loop? program).2 :=
  of_same (before.constants_loop? program) (before.loops_loop? program)

theorem storeConstant (source : String) (value : Value) :
    before.Grow (before.storeConstant source value) := by
  refine ⟨?_, ?_⟩
  · intro asked known found
    unfold Caches.storeConstant
    split
    · rw [Std.TreeMap.get?_eq_getElem?, Std.TreeMap.getElem?_insertIfNew]
      split
      · rename_i isNew
        rw [Std.LawfulEqCmp.compare_eq_iff_eq.1 isNew.1, Std.TreeMap.mem_iff_isSome_getElem?] at isNew
        rw [Std.TreeMap.get?_eq_getElem?] at found
        rw [found] at isNew
        exact absurd rfl isNew.2
      · exact found
    · exact found
  · intro text entry found
    unfold Caches.storeConstant
    split <;> exact found

theorem storeLoop {program : String} (unknown : before.loops.get? program = none)
    (entry : CachedLoop) : before.Grow (before.storeLoop program entry) := by
  refine ⟨fun _ _ found => found, ?_⟩
  intro text known found
  rw [Caches.storeLoop, Std.TreeMap.get?_eq_getElem?, Std.TreeMap.getElem?_insert]
  split
  · rename_i same
    rw [← Std.LawfulEqCmp.compare_eq_iff_eq.1 same, unknown] at found
    cases found
  · exact found

end Grow

end Caches

/-! ## Evaluations -/

/-- The caches have grown, they still hold values of constant expressions, and the deadline is where
it was. -/
structure State.Grows (before after : State) : Prop where
  caches : before.caches.Grow after.caches
  computed : before.caches.AreComputed (fun _ => True) → after.caches.AreComputed fun _ => True
  deadline : after.run.limiter.deadline = before.run.limiter.deadline

namespace State.Grows

variable {before after : State}

theorem of_same (sameCaches : after.caches = before.caches)
    (sameDeadline : after.run.limiter.deadline = before.run.limiter.deadline) :
    before.Grows after where
  caches := .of_same (congrArg Caches.constants sameCaches) (congrArg Caches.loops sameCaches)
  computed := fun computed => sameCaches ▸ computed
  deadline := sameDeadline

theorem isPreorder : IsPreorder Grows where
  refl := fun _ => .of_same rfl rfl
  trans := fun left right =>
    { caches := left.caches.trans right.caches
      computed := fun computed => right.computed (left.computed computed)
      deadline := right.deadline.trans left.deadline }

theorem of_aside (same : after.aside = before.aside) : before.Grows after :=
  .of_same (congrArg Aside.caches same) (congrArg (·.limiter.deadline) same)

end State.Grows

namespace Eval

variable {α : Type}

theorem grows_of_isStep {action : Eval α} (isStep : IsStep action) : action.Leads State.Grows := by
  intro environment state
  cases isStep with
  | assign placement type name value =>
      exact .of_aside (State.aside_assign placement type name value)
  | onHeap compute _ =>
      unfold after onHeap
      dsimp only
      cases compute state.heap with
      | mk outcome heap => cases outcome <;> exact .of_same rfl rfl
  | tick =>
      unfold after tick
      dsimp only
      cases state.run.limiter.tick.1 <;> exact .of_same rfl rfl
  | check =>
      unfold after check
      cases state.run.limiter.check <;> exact .of_same rfl rfl
  | closeFile number =>
      unfold after closeFile
      rw [Running.run_bind, Running.run_get]
      dsimp only
      cases state.run.files.close? number <;> exact .of_same rfl rfl
  | _ => exact .of_same rfl rfl

theorem modify_grows {change : State → State}
    (sameCaches : ∀ state, (change state).caches = state.caches)
    (sameDeadline : ∀ state,
      (change state).run.limiter.deadline = state.run.limiter.deadline) :
    (MonadState.modifyGet fun state => ((), change state) : Eval Unit).Leads State.Grows :=
  .modify fun state => .of_same (sameCaches state) (sameDeadline state)

theorem enterFrame_grows : Engine.enterFrame.Leads State.Grows := by
  intro environment state
  unfold after Engine.enterFrame
  cases entered : state.run.limiter.enter with
  | error fault => exact .of_same rfl rfl
  | ok limiter =>
      refine .of_same rfl ?_
      unfold Limiter.enter at entered
      dsimp only at entered
      split at entered
      · cases entered
      · cases entered
        rfl

theorem constantValue_grows {levels : Nat} {expression : Expr}
    (isConstant : expression.isConstant = true)
    (grows : ((Engine.within levels).nodeValue expression).Leads State.Grows) :
    ((Engine.within levels).constantValue expression).Leads State.Grows := by
  intro environment state
  let asked : State :=
    { state with caches := (state.caches.constant? (expression.render {})).2 }
  have node := grows environment asked
  have grown : state.caches.Grow
        (((Engine.within levels).constantValue expression).after environment state).caches ∧
      (((Engine.within levels).constantValue expression).after environment
        state).run.limiter.deadline = state.run.limiter.deadline := by
    unfold after at node ⊢
    rw [Engine.constantValue_eq _ (Expr.isNumeral_of_isConstant isConstant)]
    cases state.caches.constants.get? (expression.render {}) with
    | some value => exact ⟨.constant? _, rfl⟩
    | none =>
        dsimp only
        cases ran : (Engine.within levels).nodeValue expression environment asked with
        | error stop after =>
            rw [ran] at node
            exact ⟨.trans (.constant? _) node.caches, node.deadline⟩
        | ok value after =>
            rw [ran] at node
            exact ⟨.trans (.constant? _) (.trans node.caches (.storeConstant _ _)), node.deadline⟩
  -- That all remembered constants were computed needs what the answer is, not only that it grows.
  refine ⟨grown.1, fun computed => ?_, grown.2⟩
  rcases @Engine.constantValue_isAnswered _ environment expression isConstant
    (fun _ _ => trivial) levels state computed with ⟨answer, caches, ticks, _, stillComputed, _, ended⟩
  unfold after
  rw [ended]
  cases answer <;> exact stillComputed

theorem offerLoop_grows (loop : Statement) : (offerLoop loop).Leads State.Grows := by
  intro environment state
  have grown {other : State} {caches : Caches} {ticks : UInt64} (grow : state.caches.Grow caches)
      (sameConstants : caches.constants = state.caches.constants)
      (sameDeadline : other.run.limiter.deadline = state.run.limiter.deadline) :
      state.Grows (other.beside caches state.run.sink ticks) :=
    { caches := grow
      computed := fun computed source value found => computed source value (sameConstants ▸ found)
      deadline := sameDeadline }
  have merged (result : LoopResult) (certain : List (String × DeclaredType)) :
      (state.mergeResult environment result certain).run.limiter.deadline =
        state.run.limiter.deadline :=
    congrArg (·.limiter.deadline) (State.aside_mergeResult result certain)
  have asked (program : String) : (state.caches.loop? program).2.constants =
      state.caches.constants :=
    state.caches.constants_loop? program
  have stored {program : String} (unknown : state.caches.loops.get? program = none)
      (entry : CachedLoop) :
      state.caches.Grow ((state.caches.loop? program).2.storeLoop program entry) :=
    .trans (.loop? program) (.storeLoop (by rw [Caches.loops_loop?]; exact unknown) entry)
  have offered := offerLoop_offered environment state loop
  unfold after
  generalize offerLoop loop environment state = ended at offered
  cases offered with
  | dynamic | refused => exact .of_same rfl rfl
  | reused => exact grown (.loop? _) (asked _) (merged _ _)
  | failedBefore | fatal => exact grown (.loop? _) (asked _) rfl
  | completed ticks _ unknown => exact grown (stored unknown _) (asked _) (merged _ _)
  | failed ticks _ unknown | endless ticks _ unknown =>
      exact grown (stored unknown _) (asked _) rfl

end Eval

end MacroSandbox
