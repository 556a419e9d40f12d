import MacroSandbox.Proofs.FlatResults
import MacroSandbox.Proofs.NameStems
import MacroSandbox.Proofs.Repeatability
import MacroSandbox.Proofs.StoredResults

/-! Results that are written back from the cache.

A result is remembered as data, apart from any heap, and every time it is written back it is built
again in places of its own. So whatever becomes of the lists and maps that were built from it, the
next program that reads the same finds the result as it was. What a variable gets is what was computed
for it, unless another update is written over it. -/

namespace MacroSandbox

/-! ## Coercion -/

/-- What a variable of a declared type holds after a datum is assigned to it. Lists and maps are never
converted. -/
def Datum.coerceTo (type : Option DeclaredType) : Datum → Datum
  | .list items => .list items
  | .map keys values => .map keys values
  | scalar => ({} : Heap).contents (({} : Heap).coerceTo type (scalar.build {}).1)

namespace Heap

theorem coerceTo_eq_of_isReference {value : Value} (reference : value.isReference = true)
    (type : Option DeclaredType) (heap : Heap) : heap.coerceTo type value = value := by
  rcases type with _ | type
  · rfl
  · cases value <;> first | rfl | cases reference

theorem shows_contents {value : Value} (scalar : value.isReference = false)
    (base heap other : Heap) : base.Shows heap (other.contents value) value := by
  cases value with
  | list | map => cases scalar
  | _ => simp [contents, contentsWithin, Shows, Datum.build]

theorem depth_contents {value : Value} (scalar : value.isReference = false) (heap : Heap) :
    (heap.contents value).depth = 0 := by
  cases value with
  | list | map => cases scalar
  | _ => simp [contents, contentsWithin, Datum.depth]

theorem Shows.coerceTo {base heap : Heap} {datum : Datum} {value : Value}
    (shows : base.Shows heap datum value) (type : Option DeclaredType) :
    base.Shows heap (datum.coerceTo type) (heap.coerceTo type value) := by
  have ofScalar {scalar : Value} (isScalar : scalar.isReference = false) :
      base.Shows heap (({} : Heap).contents (({} : Heap).coerceTo type scalar))
        (heap.coerceTo type scalar) := by
    rw [coerceTo_congr type heap {}]
    exact shows_contents (isReference_coerceTo isScalar) base heap {}
  cases datum with
  | list items =>
      have isList := shows
      rw [Shows] at isList
      obtain ⟨place, rfl, _⟩ := isList
      rwa [coerceTo_eq_of_isReference rfl]
  | map keys values =>
      have isMap := shows
      rw [Shows] at isMap
      obtain ⟨place, rfl, _⟩ := isMap
      rwa [coerceTo_eq_of_isReference rfl]
  | _ =>
      simp only [Shows, Datum.build] at shows
      rw [shows]
      exact ofScalar rfl

end Heap

theorem Datum.depth_coerceTo_le (datum : Datum) (type : Option DeclaredType) :
    (datum.coerceTo type).depth ≤ datum.depth := by
  have ofScalar {scalar : Value} (isScalar : scalar.isReference = false) :
      (({} : Heap).contents (({} : Heap).coerceTo type scalar)).depth ≤ 0 :=
    Nat.le_of_eq (Heap.depth_contents (Heap.isReference_coerceTo isScalar) {})
  cases datum with
  | list | map => exact Nat.le_refl _
  | _ => exact ofScalar rfl

/-! ## Writing one value back -/

namespace State

def mergeUpdate (environment : Environment) (state : State) (name : String) (final : Datum) :
    State :=
  { state with heap := (final.build state.heap).2 }.mergeValue environment name
    (final.build state.heap).1

theorem mergeUpdates_cons (environment : Environment) (state : State) (name : String)
    (final : Datum) (rest : List (String × Datum)) :
    state.mergeUpdates environment ((name, final) :: rest) =
      (state.mergeUpdate environment name final).mergeUpdates environment rest :=
  rfl

theorem Varies.set_of_isDotFree {name : String} (dotFree : IsDotFree name) (state : State)
    (environment : Environment) (value : Value) :
    state.Varies (state.set environment name value) := by
  rw [State.set_eq_bind_of_isDotFree dotFree]
  exact (Varies.scanValue state _).trans (Varies.bind _ _ _ _)

/-- A final value was written back: the name shows it, and nothing else was touched but the place that
the name referred to before. -/
structure Merges (environment : Environment) (base : Heap) (name : String) (final : Datum)
    (state after : State) : Prop where
  varies : { state with heap := after.heap }.Varies after
  keeps : state.heap.KeepsBut ((state.scope environment).get? name) after.heap
  others : ∀ other, IsDotFree other → nameStem (Text.trim name) ≠ nameStem (Text.trim other) →
    (after.scope environment).get? other = (state.scope environment).get? other
  shown : ∃ held, (after.scope environment).get? name = some held ∧
    base.Shows after.heap (final.coerceTo (state.frame.types.get? (Text.trim name))) held ∧
      (base.IsNewSince after.heap held ∨ (state.scope environment).get? name = some held)
  depth : final.depth ≤ after.heap.depthBound

theorem merges_into {environment : Environment} {state : State} {base heap later : Heap}
    {name : String} {final : Datum} {held : Value} (isReference : held.isReference = true)
    (bound : (state.scope environment).get? name = some held)
    (keeps : state.heap.KeepsBut ((state.scope environment).get? name) heap)
    (writes : heap.KeepsBut (some held) later) (shows : base.Shows later final held)
    (deep : final.depth ≤ later.depthBound) :
    Merges environment base name final state { state with heap := later } := by
  have shown := shows.coerceTo (state.frame.types.get? (Text.trim name))
  rw [Heap.coerceTo_eq_of_isReference isReference] at shown
  rw [bound] at keeps
  refine ⟨rfl, ?_, fun _ _ _ => rfl, ⟨_, bound, shown, .inr bound⟩, deep⟩
  rw [bound]
  exact keeps.trans writes

theorem merges_mergeUpdate {environment : Environment} {state : State} {base : Heap} {name : String}
    {final : Datum} (dotFree : IsDotFree name) (sound : final.IsSound)
    (within : base.IsWithin state.heap)
    (old : ∀ value, (state.scope environment).get? name = some value → base.owns value = true) :
    Merges environment base name final state (state.mergeUpdate environment name final) := by
  obtain ⟨shows, isNew⟩ := Heap.shows_build final sound within
  have keeps : state.heap.KeepsBut ((state.scope environment).get? name)
      (final.build state.heap).2 := .build final state.heap
  have deep := Heap.depthBound_build final state.heap
  unfold mergeUpdate
  generalize final.build state.heap = built at shows isNew keeps deep
  rcases built with ⟨value, heap⟩
  dsimp only at shows isNew keeps deep ⊢
  have grown := keeps.isWithin within
  have deepEnough {later : Heap} {touched : Option Value} (kept : heap.KeepsBut touched later) :
      final.depth ≤ later.depthBound := by
    have := kept.depthBound_le
    omega
  unfold mergeValue
  split
  · rename_i existing updated bound
    have sameBound : (state.scope environment).get? name = some (.list existing) := bound
    have writes := Heap.KeepsBut.modifyList heap existing fun _ => heap.list updated
    exact merges_into rfl sameBound keeps writes (shows.modifyList (old _ sameBound) grown)
      (deepEnough writes)
  · rename_i existing updated bound
    have sameBound : (state.scope environment).get? name = some (.map existing) := bound
    have writes := Heap.KeepsBut.modifyMap heap existing fun _ => heap.map updated
    exact merges_into rfl sameBound keeps writes (shows.modifyMap (old _ sameBound) grown)
      (deepEnough writes)
  · rename_i value _ _ _ _
    have varies := Varies.set_of_isDotFree dotFree { state with heap } environment value
    have sameHeap : ({ state with heap }.set environment name value).heap = heap := by
      rw [varies]
    refine ⟨?_, ?_, ?_, ⟨_, get?_set_self dotFree value, ?_, .inl ?_⟩, ?_⟩
    · rw [sameHeap]
      exact varies
    · rw [sameHeap]
      exact keeps
    · exact fun other otherDotFree differs => get?_set_of_stem_ne dotFree otherDotFree differs value
    · rw [sameHeap]
      exact shows.coerceTo _
    · rw [sameHeap]
      cases reference : value.isReference with
      | true => rwa [Heap.coerceTo_eq_of_isReference reference]
      | false => exact Heap.isNewSince_of_not_isReference (Heap.isReference_coerceTo reference)
    · rw [sameHeap]
      exact deepEnough (.refl heap none)

/-! ## Writing several values back -/

/-- Names whose values can be written back one after the other: none is read as another one, no list
and no map is the value of two of them, and the heap has all places that they refer to. -/
structure AreApart (environment : Environment) (base : Heap) (state : State) (names : List String) :
    Prop where
  dotFree : ∀ name ∈ names, IsDotFree name
  owned : ∀ name ∈ names, ∀ value, (state.scope environment).get? name = some value →
    base.owns value = true
  stems : names.Pairwise fun first second =>
    nameStem (Text.trim first) ≠ nameStem (Text.trim second)
  places : names.Pairwise fun first second => ∀ value : Value, value.isReference = true →
    (state.scope environment).get? first = some value →
    (state.scope environment).get? second ≠ some value

def Presents (environment : Environment) (base : Heap) (others : List String) (state : State)
    (name : String) (datum : Datum) : Prop :=
  ∃ held, (state.scope environment).get? name = some held ∧ base.Shows state.heap datum held ∧
    datum.depth ≤ state.heap.depthBound ∧
    (held.isReference = true → state.heap.owns held = true) ∧
    ∀ other ∈ others, held.isReference = true → (state.scope environment).get? other ≠ some held

section

variable {environment : Environment} {base : Heap} {state after : State} {name : String}
  {names rest : List String} {final datum : Datum}

theorem AreApart.sublist (apart : AreApart environment base state names)
    (sublist : rest.Sublist names) : AreApart environment base state rest where
  dotFree name member := apart.dotFree name (sublist.subset member)
  owned name member := apart.owned name (sublist.subset member)
  stems := apart.stems.sublist sublist
  places := apart.places.sublist sublist

theorem AreApart.get?_eq (apart : AreApart environment base state (name :: rest))
    (merges : Merges environment base name final state after) {other : String}
    (member : other ∈ rest) :
    (after.scope environment).get? other = (state.scope environment).get? other :=
  merges.others other (apart.dotFree other (List.mem_cons_of_mem _ member))
    (List.rel_of_pairwise_cons apart.stems member)

theorem AreApart.merged (apart : AreApart environment base state (name :: rest))
    (merges : Merges environment base name final state after) :
    AreApart environment base after rest where
  dotFree other member := apart.dotFree other (List.mem_cons_of_mem _ member)
  owned other member := by
    rw [apart.get?_eq merges member]
    exact apart.owned other (List.mem_cons_of_mem _ member)
  stems := apart.stems.of_cons
  places := by
    refine apart.places.of_cons.imp_of_mem fun first second separate => ?_
    rw [apart.get?_eq merges first, apart.get?_eq merges second]
    exact separate

theorem Merges.presents (merges : Merges environment base name final state after)
    (apart : AreApart environment base state (name :: rest)) (within : base.IsWithin state.heap) :
    Presents environment base rest after name
      (final.coerceTo (state.frame.types.get? (Text.trim name))) := by
  obtain ⟨held, bound, shows, place⟩ := merges.shown
  refine ⟨held, bound, shows, Nat.le_trans (Datum.depth_coerceTo_le _ _) merges.depth, ?_, ?_⟩
  · intro reference
    rcases place with isNew | before
    · exact (Heap.owns_of_isNewSince reference isNew).1
    · exact (merges.keeps.isWithin within).owns reference (apart.owned name (by simp) held before)
  · intro other member reference same
    rw [apart.get?_eq merges member] at same
    rcases place with isNew | before
    · have owned := apart.owned other (List.mem_cons_of_mem _ member) held same
      rw [(Heap.owns_of_isNewSince reference isNew).2] at owned
      cases owned
    · exact List.rel_of_pairwise_cons apart.places member held reference before same

theorem Presents.merged {written : String} (presents :
      Presents environment base (written :: rest) state name datum)
    (merges : Merges environment base written final state after)
    (apart : AreApart environment base state (written :: rest)) (dotFree : IsDotFree name)
    (differs : nameStem (Text.trim written) ≠ nameStem (Text.trim name)) :
    Presents environment base rest after name datum := by
  obtain ⟨held, bound, shows, deep, owned, untouched⟩ := presents
  refine ⟨held, (merges.others name dotFree differs).trans bound, ?_,
    Nat.le_trans deep merges.keeps.depthBound_le,
    fun reference => merges.keeps.sizes.owns reference (owned reference), ?_⟩
  · refine Heap.Shows.of_keepsBut (apart.owned written (by simp)) merges.keeps datum ?_ shows
    exact fun reference => ⟨owned reference, untouched written (by simp) reference⟩
  · intro other member reference
    rw [apart.get?_eq merges member]
    exact untouched other (List.mem_cons_of_mem _ member) reference

structure AreMergeable (environment : Environment) (base : Heap) (state : State)
    (updates : List (String × Datum)) : Prop where
  apart : AreApart environment base state (updates.map Prod.fst)
  sound : ∀ update ∈ updates, update.2.IsSound
  within : base.IsWithin state.heap

variable {updates : List (String × Datum)}

theorem AreMergeable.merges
    (mergeable : AreMergeable environment base state ((name, final) :: updates)) :
    Merges environment base name final state (state.mergeUpdate environment name final) :=
  merges_mergeUpdate (mergeable.apart.dotFree name (by simp)) (mergeable.sound (name, final) (by simp))
    mergeable.within (mergeable.apart.owned name (by simp))

theorem AreMergeable.merged
    (mergeable : AreMergeable environment base state ((name, final) :: updates)) :
    AreMergeable environment base (state.mergeUpdate environment name final) updates where
  apart := mergeable.apart.merged mergeable.merges
  sound update member := mergeable.sound update (List.mem_cons_of_mem _ member)
  within := mergeable.merges.keeps.isWithin mergeable.within

theorem AreMergeable.varies (mergeable : AreMergeable environment base state updates) :
    { state with heap := (state.mergeUpdates environment updates).heap }.Varies
      (state.mergeUpdates environment updates) := by
  induction updates generalizing state with
  | nil => exact .refl state
  | cons update rest induction =>
      rcases update with ⟨name, final⟩
      have first := mergeable.merges.varies
      have others := induction mergeable.merged
      rw [mergeUpdates_cons]
      unfold Varies at first others ⊢
      rw [others, first]

theorem Presents.mergedAll {datum : Datum}
    (presents : Presents environment base (updates.map Prod.fst) state name datum)
    (mergeable : AreMergeable environment base state updates) (dotFree : IsDotFree name)
    (differs : ∀ update ∈ updates, nameStem (Text.trim update.1) ≠ nameStem (Text.trim name)) :
    Presents environment base [] (state.mergeUpdates environment updates) name datum := by
  induction updates generalizing state with
  | nil => exact presents
  | cons update rest induction =>
      rcases update with ⟨written, final⟩
      rw [mergeUpdates_cons]
      refine induction ?_ mergeable.merged fun update member => differs update (by simp [member])
      exact presents.merged mergeable.merges mergeable.apart dotFree (differs (written, final) (by simp))

theorem AreMergeable.presents (mergeable : AreMergeable environment base state updates)
    (member : (name, final) ∈ updates) :
    Presents environment base [] (state.mergeUpdates environment updates) name
      (final.coerceTo (state.frame.types.get? (Text.trim name))) := by
  induction updates generalizing state with
  | nil => cases member
  | cons update rest induction =>
      rcases update with ⟨written, value⟩
      rw [mergeUpdates_cons]
      rcases List.mem_cons.1 member with same | later
      · cases same
        refine (mergeable.merges.presents mergeable.apart mergeable.within).mergedAll
          mergeable.merged (mergeable.apart.dotFree name (by simp)) fun update inside => ?_
        exact (List.rel_of_pairwise_cons mergeable.apart.stems
          (List.mem_map_of_mem inside)).symm
      · have sameTypes : (state.mergeUpdate environment written value).frame.types =
            state.frame.types := by
          rw [mergeable.merges.varies]
        rw [← sameTypes]
        exact induction mergeable.merged later

end

/-! ## Writing a result back -/

variable {environment : Environment} {state : State}

end State

namespace Machine

theorem eq_result_of_run {program : LoopProgram} {policy : Policy} {heap : Heap} {limiter : Limiter}
    {result : LoopResult} {final : State}
    (ran : run program policy heap limiter = (.ok result, final)) :
    result = Machine.result program final := by
  unfold run at ran
  dsimp only at ran
  split at ran <;> cases ran
  rfl

theorem sublist_updates (program : LoopProgram) (final : State) :
    ((result program final).updates.map Prod.fst).Sublist program.captures.toList := by
  rw [result]
  induction program.captures.toList with
  | nil => exact .slnil
  | cons name rest induction =>
      rw [List.filterMap_cons]
      cases final.store.get? name with
      | none => exact induction.cons name
      | some value => exact induction.cons_cons name

theorem isSound_of_mem_updates {program : LoopProgram} {final : State} {update : String × Datum}
    (member : update ∈ (result program final).updates) : update.2.IsSound := by
  simp only [result, List.mem_filterMap, Option.map_eq_some_iff] at member
  obtain ⟨name, _, value, _, rfl⟩ := member
  exact final.heap.isSound_contentsWithin _ _

/-- What a run computed is in place: every captured variable that has a value at the end of the run
holds the same, nested lists and maps included, coerced to the type that is known for the variable;
and the bytes that the run wrote are at their addresses. -/
structure State.IsWrittenBack (final : State) (captures : Std.TreeSet String)
    (environment : Environment) (before after : MacroSandbox.State) : Prop where
  values : ∀ name ∈ captures, ∀ value, final.store.get? name = some value →
    ∃ held, (after.scope environment).get? name = some held ∧
      after.heap.contents held =
        (final.heap.contents value).coerceTo (before.frame.types.get? (Text.trim name))
  memory : ∀ address, after.run.memory.byte? address =
    (final.memory.byte? address).or (before.run.memory.byte? address)

end Machine

/-- A result is written back as it is, unless captured names get into each other's way. -/
theorem State.isWrittenBack_mergeResult {environment : Environment} {state : State}
    {program : LoopProgram} (apart : state.AreApart environment state.heap program.captures.toList)
    (final : Machine.State) (certain : List (String × DeclaredType)) :
    final.IsWrittenBack program.captures environment state
      (state.mergeResult environment (Machine.result program final) certain) := by
  have mergeable : state.AreMergeable environment state.heap
      (Machine.result program final).updates :=
    ⟨apart.sublist (Machine.sublist_updates program final),
      fun _ => Machine.isSound_of_mem_updates, Nat.le_refl _, Nat.le_refl _⟩
  let merged := state.mergeUpdates environment (Machine.result program final).updates
  obtain ⟨sameScope, sameHeap, sameRun⟩ := @scope_mergeTypes environment
    { merged with run.memory := merged.run.memory.merge final.memory } certain
  have merges : state.mergeResult environment (Machine.result program final) certain =
      { merged with run.memory := merged.run.memory.merge final.memory }.mergeTypes certain := rfl
  rw [merges]
  refine ⟨fun name captured value bound => ?_, fun address => ?_⟩
  · have member : (name, final.heap.contents value) ∈ (Machine.result program final).updates := by
      simp only [Machine.result, List.mem_filterMap, Std.TreeSet.mem_toList]
      exact ⟨name, captured, by rw [bound]; rfl⟩
    obtain ⟨held, shown, shows, deep, _⟩ := mergeable.presents member
    refine ⟨held, by rw [sameScope]; exact shown, ?_⟩
    rw [sameHeap]
    exact Heap.contentsWithin_of_shows _ shows deep
  · have sameMemory : merged.run.memory = state.run.memory := by
      rw [show merged = _ from mergeable.varies]
    rw [sameRun]
    dsimp only
    rw [Memory.byte?_merge, sameMemory]

/-! ## Results that stay -/

namespace Eval

theorem block_grows (statements : List Statement) : (block statements).Leads State.Grows := by
  have composed : (block statements).IsComposed .directs :=
    (Engine.within_isComposed Engine.maxNesting).runBlock statements (ErrorRole.admits_directs _)
  exact composed.grows

theorem exists_run_of_completed {environment : Environment} {state : State} {loop : Statement}
    {lowered : Lowered} (lowers : state.Lowers environment loop lowered)
    (completes : (offerLoop loop).outcome environment state = .ok .completed) :
    ∃ final, Machine.run lowered.program environment.policy state.heap state.run.limiter =
        (.ok (Machine.result lowered.program final), final) ∧
      ((offerLoop loop).after environment state).caches.loops.get?
        (lowered.program.render state.heap) =
          some (.done (Machine.result lowered.program final)) := by
  have ways := offerLoop_offered environment state loop
  unfold outcome at completes
  unfold after
  generalize offerLoop loop environment state = ended at ways completes
  cases ways with
  | @completed other result ticks lowersToo unknown ran =>
      obtain rfl : other = lowered := Option.some.inj (lowersToo.lowers.symm.trans lowers.lowers)
      rcases whole : Machine.run other.program environment.policy state.heap state.run.limiter with
        ⟨outcome, final⟩
      rw [whole] at ran
      subst ran
      obtain rfl := Machine.eq_result_of_run whole
      exact ⟨final, rfl, Std.TreeMap.getElem?_insert_self⟩
  | _ => cases completes

/-- A remembered result is stable. After a loop was compiled and run in one state, and after any
statements that followed there, a state that shares the caches and in which the loop has a program of
the same text gets what that run computed. The loop is not run again and nothing is added to the
caches; one more question was answered. The names that the program captures must not get into each
other's way: no two of them have one stem or one list or map.

It would be the same if the result were not remembered as data but as the lists and maps that the run
made: they are out of reach of the caller and of the statements that follow. -/
theorem remembered_result_stable {environment : Environment} {first second : State}
    {loop : Statement} {lowered again : Lowered} (statements : List Statement)
    (lowers : first.Lowers environment loop lowered)
    (completes : (offerLoop loop).outcome environment first = .ok .completed)
    (shared : second.caches =
      ((block statements).after environment ((offerLoop loop).after environment first)).caches)
    (lowersAgain : second.Lowers environment loop again)
    (sameText : again.program.render second.heap = lowered.program.render first.heap)
    (sameCaptures : again.program.captures = lowered.program.captures)
    (apart : second.AreApart environment second.heap again.program.captures.toList) :
    ∃ result final, ∃ after : State,
      Machine.run lowered.program environment.policy first.heap first.run.limiter =
          (.ok result, final) ∧
        offerLoop loop environment second = .ok .reused after ∧
        compileLoop loop environment second = .ok true after ∧
        after.caches = { second.caches with
          statistics.loopHits := second.caches.statistics.loopHits + 1 } ∧
        after.run.limiter = second.run.limiter ∧
        final.IsWrittenBack again.program.captures environment second after ∧
        (first.IsClosed environment → Statement.ListSpares first.heap.beyond statements →
          final.IsOutOfReach environment first.heap lowered.program
            ((block statements).after environment
              (first.afterStored environment lowered final))) := by
  obtain ⟨final, ran, remembered⟩ := exists_run_of_completed lowers completes
  -- Caches only grow, so the result that the first offer stored is still there.
  have known : second.caches.loops.get? (again.program.render second.heap) =
      some (.done (Machine.result lowered.program final)) := by
    rw [shared, sameText]
    exact (block_grows statements environment _).caches.loops _ _ remembered
  rw [sameCaptures] at apart ⊢
  let merged := second.mergeResult environment (Machine.result lowered.program final) again.certain
  let after := merged.beside (second.caches.loop? (again.program.render second.heap)).2
    second.run.sink second.run.limiter.ticks
  have reused : offerLoop loop environment second = .ok .reused after := by
    rw [offerLoop_eq lowersAgain]
    dsimp only
    rw [known]
    exact congrArg (EStateM.Result.ok LoopOutcome.reused) (State.mergeResult_beside _ _ _ _ _)
  have written := State.isWrittenBack_mergeResult apart final again.certain
  refine ⟨_, final, after, ran, reused, compileLoop_of_offerLoop reused, ?_, ?_, ?_, ?_⟩
  · change (second.caches.loop? (again.program.render second.heap)).2 = _
    rw [Caches.loop?, known]
  · have sameLimiter : merged.run.limiter = second.run.limiter :=
      congrArg Aside.limiter (State.aside_mergeResult _ again.certain)
    change { merged.run.limiter with ticks := second.run.limiter.ticks } = second.run.limiter
    rw [sameLimiter]
  · exact ⟨written.values, written.memory⟩
  · intro closed spared
    have unreached := closed.isOutOfReach lowered spared
    rwa [ran] at unreached

private def listing : Environment :=
  { library := .ofFunctions [{
      name := "Array", arity := { least := 0, most := 9 }, returnType := none
      routine := .pure .array }]
    constants := {} }

private def listOf (items : List Expr) : Expr :=
  .call (.var "Array") items

private def assigningLoop (assignments : List (String × Expr)) : Statement :=
  .forRange "i" (.literal (.integer 1)) (.literal (.integer 1)) none
    (assignments.map fun (name, value) => .assign (.var name) value)

private def nestingLoop : Statement :=
  assigningLoop [("s", listOf [listOf [.literal (.integer 1)], .literal (.integer 2)])]

private def nestingState : State :=
  { State.start listing none {} {} with heap := { lists := #[#[.integer 5]] } }.set listing "s"
    (.list 0)

private def changingStatement : Statement :=
  .assign (.call (.var "s") [.literal (.integer 0)]) (.literal (.integer 9))

private def nestingAgain : State :=
  { nestingState with caches :=
      ((block [changingStatement]).after listing
        ((offerLoop nestingLoop).after listing nestingState)).caches }

private theorem isClosed_nestingState : nestingState.IsClosed listing := by
  have sameHeap : nestingState.heap = { lists := #[#[.integer 5]] } := State.heap_assign ..
  refine ⟨?_, ⟨nofun, nofun⟩, ?_, ?_⟩
  · have isThere : nestingState.heap.beyond.IsApart (.list 0) := by
      rw [sameHeap]
      exact Nat.not_le_of_lt Nat.zero_lt_one
    generalize nestingState.heap.beyond = base at isThere
    have start : State.Omits base { State.start listing none {} {} with
        heap := { lists := #[#[.integer 5]] } } := { State.omits_start listing none {} with }
    exact start.set "s" isThere
  · intro place value member
    have same : value = .integer 5 := by
      rw [sameHeap] at member
      cases place with
      | zero => simpa [Heap.list] using member
      | succ place => simp [Heap.list] at member
    rw [same]
    trivial
  · intro place key value found
    simp [sameHeap, Heap.map] at found

private theorem listSpares_changingStatement (base : Reserve) :
    Statement.ListSpares base [changingStatement] := by
  intro statement member value contains
  obtain rfl := List.mem_singleton.1 member
  rw [← Node.mem_nodes_iff] at contains
  simp only [changingStatement, Node.nodes_eq, Node.children, Node.ofStatement, Node.ofExpr,
    List.map_cons, List.map_nil, List.flatMap_cons, List.flatMap_nil, List.append_nil,
    List.cons_append, List.nil_append, List.mem_cons, List.not_mem_nil, or_false, reduceCtorEq,
    false_or, Node.expr.injEq, Expr.literal.injEq] at contains
  rcases contains with rfl | rfl <;> trivial

/-- What the run of the nesting loop leaves: the list of the caller, a copy of it, and a list that
holds another one. -/
private def leavesNested (final : Machine.State) : Bool :=
  final.heap.lists == #[#[.integer 5], #[.integer 5], #[.integer 1], #[.list 2, .integer 2]] &&
    final.store.toList == [("i", .integer 2), ("s", .list 3)]

private theorem isFinite_nested {final : Machine.State} (leaves : leavesNested final = true)
    {name : String} {value : Value} (bound : final.store.get? name = some value) :
    final.heap.IsFinite value := by
  rcases Bool.and_eq_true_iff.1 leaves with ⟨lists, store⟩
  have lists := eq_of_beq lists
  have inStore := Std.TreeMap.mem_toList_iff_getElem?_eq_some.2 bound
  rw [eq_of_beq store] at inStore
  rcases List.mem_pair.1 inStore with ⟨⟨⟩⟩ | ⟨⟨⟩⟩
  · exact ⟨trivial, Heap.shows_contents rfl _ _ _⟩
  · have shows : ({} : Heap).Shows final.heap (.list [.list [.integer 1], .integer 2]) (.list 3) := by
      simp [Heap.Shows, Heap.ShowsAll, Heap.list, Heap.IsNewSince, Datum.build, lists]
    have deep : final.heap.lists.size = 4 := by rw [lists]; rfl
    have enough : 2 ≤ final.heap.depthBound := by unfold Heap.depthBound; omega
    refine ⟨⟨Nat.zero_le _, by omega⟩, ?_⟩
    rwa [Heap.contents, Heap.contentsWithin_of_shows _ shows enough]

set_option maxRecDepth 100000 in
/-- A nested list is found again as it was computed, though the first one was changed. The lists that
the run made are not those that were changed. -/
theorem remembered_result_stable_nested :
    ∃ lowered result final, ∃ after : State,
      nestingState.Lowers listing nestingLoop lowered ∧
        Machine.run lowered.program listing.policy nestingState.heap nestingState.run.limiter =
          (.ok result, final) ∧
        offerLoop nestingLoop listing nestingAgain = .ok .reused after ∧
        final.IsWrittenBack lowered.program.captures listing nestingAgain after ∧
        final.IsOutOfReach listing nestingState.heap lowered.program
          ((block [changingStatement]).after listing
            (nestingState.afterStored listing lowered final)) ∧
        ∀ name ∈ lowered.program.captures, ∀ value, final.store.get? name = some value →
          final.heap.IsFinite value := by
  have isLowered : ((nestingState.caller listing).lower? nestingLoop).any
      (fun lowered => lowered.program.captures.toList == ["i", "s"] &&
        leavesNested (Machine.run lowered.program listing.policy nestingState.heap
          nestingState.run.limiter).2) = true := by decide +kernel
  rcases (Option.any_eq_true _ _).1 isLowered with ⟨lowered, lowers, facts⟩
  rcases Bool.and_eq_true_iff.1 facts with ⟨names, leaves⟩
  have lowers : nestingState.Lowers listing nestingLoop lowered := ⟨by decide +kernel, lowers⟩
  -- The index has no value yet, so the list is the only place that is written back to.
  have apart : nestingAgain.AreApart listing nestingAgain.heap lowered.program.captures.toList := by
    have index : (nestingAgain.scope listing).get? "i" = none := by decide +kernel
    have list : (nestingAgain.scope listing).get? "s" = some (.list 0) := by decide +kernel
    rw [eq_of_beq names]
    refine ⟨by decide +kernel, ?_, by decide +kernel, ?_⟩
    · intro name member value bound
      rcases List.mem_cons.1 member with rfl | member
      · cases index.symm.trans bound
      · obtain rfl := List.mem_singleton.1 member
        obtain rfl := Option.some.inj (list.symm.trans bound)
        decide +kernel
    · refine List.pairwise_pair.2 fun value _ bound => ?_
      cases index.symm.trans bound
  have lowersAgain : nestingAgain.Lowers listing nestingLoop lowered :=
    ⟨lowers.isStatic, lowers.lowers⟩
  have shared : nestingAgain.caches =
      ((block [changingStatement]).after listing
        ((offerLoop nestingLoop).after listing nestingState)).caches := rfl
  rcases remembered_result_stable [changingStatement] lowers (by decide +kernel) shared lowersAgain
    rfl rfl apart with ⟨result, final, after, ran, reused, _, _, _, written, unreached⟩
  rw [ran] at leaves
  exact ⟨lowered, result, final, after, lowers, ran, reused, written,
    unreached isClosed_nestingState (listSpares_changingStatement _),
    fun _ _ _ => isFinite_nested leaves⟩

private def dollarLoop : Statement :=
  assigningLoop [("s", listOf [.literal (.integer 1)]), ("s$", listOf [.literal (.integer 2)])]

private def dollarState : State :=
  State.start listing none {} {}

private def dollarAgain : State :=
  { dollarState with caches := ((offerLoop dollarLoop).after listing dollarState).caches }

private def itemsOf (heap : Heap) : Option Value → Option (Array Value)
  | some (.list place) => some (heap.list place)
  | _ => none

private def dollarRun (name : String) : Option (List String × Option (Array Value)) :=
  ((dollarState.caller listing).lower? dollarLoop).map fun lowered =>
    let final :=
      (Machine.run lowered.program listing.policy dollarState.heap dollarState.run.limiter).2
    (lowered.program.captures.toList, itemsOf final.heap (final.store.get? name))

set_option maxRecDepth 100000 in
/-- Where neither name is bound, what was computed for the name with the dollar sign is written over
what was just written for the other name: a list is looked for under both names. -/
theorem remembered_result_overwritten :
    (offerLoop dollarLoop).outcome listing dollarState = .ok .completed ∧
      dollarRun "s" = some (["i", "s", "s$"], some #[.integer 1]) ∧
      dollarRun "s$" = some (["i", "s", "s$"], some #[.integer 2]) ∧
      ["i", "s", "s$"].map (dollarAgain.scope listing).get? = [none, none, none] ∧
      (offerLoop dollarLoop).outcome listing dollarAgain = .ok .reused ∧
      let after := (offerLoop dollarLoop).after listing dollarAgain
      itemsOf after.heap ((after.scope listing).get? "s") = some #[.integer 2] := by
  decide +kernel

end Eval

end MacroSandbox
