import MacroSandbox.Proofs.LoopCache
import MacroSandbox.Proofs.ProgramTexts
import MacroSandbox.Proofs.RelocatedRuns

/-! What a text says of the programs that have it.

Programs that can be read off one text do the same, as long as their variables keep their shapes: it does
not matter in which states they run, or what else is there. -/

namespace MacroSandbox

/-! ## Runs of programs that read the same -/

namespace Machine

/-- Two runs end the same, or both of them nest calls too deep. -/
inductive EndsLike : Except Halt LoopResult → Except Halt LoopResult → Prop
  | same (outcome : Except Halt LoopResult) : EndsLike outcome outcome
  | tooDeep (depth other : Nat) :
      EndsLike (.error (.fatal (.recursionLimit depth))) (.error (.fatal (.recursionLimit other)))

section

variable {heap other : Heap} {left right : LoopProgram} {shapes : String → Shape}

theorem heapsMatch_refl (heap other : Heap) : Bases.HeapsMatch ⟨heap, other⟩ {} heap other where
  lists := rfl
  otherLists := rfl
  maps := rfl
  otherMaps := rfl
  items _ _ found := by simp at found
  entries _ _ found := by simp at found

theorem get?_eq_of_toList_eq {α : Type} {table copy : Std.TreeMap String α}
    (same : table.toList = copy.toList) (name : String) : table.get? name = copy.get? name := by
  apply Option.ext
  intro value
  rw [Std.TreeMap.get?_eq_getElem?, Std.TreeMap.get?_eq_getElem?,
    ← Std.TreeMap.mem_toList_iff_getElem?_eq_some, same,
    Std.TreeMap.mem_toList_iff_getElem?_eq_some]

theorem contains_eq_of_toList_eq {names copies : Std.TreeSet String}
    (same : names.toList = copies.toList) (name : String) :
    names.contains name = copies.contains name := by
  rw [Bool.eq_iff_iff, ← Std.TreeSet.mem_iff_contains, ← Std.TreeSet.mem_iff_contains,
    ← Std.TreeSet.mem_toList, same, Std.TreeSet.mem_toList]

theorem haveShapes_of_values {values : List (String × Datum)}
    (each : ∀ entry ∈ values, entry.2.HasShape (shapes entry.1)) :
    Datum.HaveShapes (values.map Prod.snd) ((values.map Prod.fst).map shapes) := by
  induction values with
  | nil => simp [Datum.HaveShapes]
  | cons entry rest induction =>
      rw [List.map_cons, List.map_cons, List.map_cons, Datum.HaveShapes]
      exact ⟨each entry List.mem_cons_self,
        induction fun other member => each other (List.mem_cons_of_mem _ member)⟩

theorem tablesAlike_ofList {bases : Bases} {layout : Layout} {names : List String}
    {values copies : List Value} (same : bases.ValuesMatch layout (names.map shapes) values copies) :
    TablesAlike (fun name => bases.Matches layout (shapes name)) (.ofList (names.zip values))
      (.ofList (names.zip copies)) := by
  apply TablesAlike.ofList
  generalize isShapes : names.map shapes = inner at same
  induction same generalizing names with
  | nil => simp
  | cons first _ induction =>
      cases names with
      | nil => cases isShapes
      | cons name names =>
          cases isShapes
          exact .cons ⟨rfl, first⟩ (induction rfl)

def pairOf (heap other : Heap) (left right : LoopProgram) (shapes : String → Shape)
    (policy : Policy) (limiter otherLimiter : Limiter) : Pair where
  bases := ⟨heap, other⟩
  shapes := shapes
  setup := ⟨left, policy.maxCompiledIterations, policy.maxLoopFaults⟩
  other := ⟨right, policy.maxCompiledIterations, policy.maxLoopFaults⟩
  limiter := limiter
  otherLimiter := otherLimiter

variable (alike : LoopProgram.ReadsAlike heap other left right)

include alike

theorem isSound_pairOf (shaped : left.IsShaped shapes heap) (policy : Policy)
    {limiter otherLimiter : Limiter} (untimed : limiter.deadline = none)
    (otherUntimed : otherLimiter.deadline = none)
    (sameRoom : limiter.maxDepth + otherLimiter.depth = otherLimiter.maxDepth + limiter.depth) :
    (pairOf heap other left right shapes policy limiter otherLimiter).IsSound where
  functions := get?_eq_of_toList_eq alike.functions
  shared := contains_eq_of_toList_eq alike.shared
  maxIterations := rfl
  maxFaults := rfl
  areShaped := shaped.functions
  untimed := untimed
  otherUntimed := otherUntimed
  sameRoom := sameRoom

theorem copyPrologue_leads (shaped : left.IsShaped shapes heap) :
    Bases.Leads ⟨heap, other⟩ {}
      (fun later => TablesAlike fun name => Bases.Matches ⟨heap, other⟩ later (shapes name))
      (copyPrologue heap left.prologue) (copyPrologue other right.prologue) := by
  have sameNames : left.prologue.keys = right.prologue.keys := by
    have names := congrArg (List.map Prod.fst) alike.initialValues
    simp only [LoopProgram.initialValues, List.map_map] at names
    rw [← Std.TreeMap.map_fst_toList_eq_keys, ← Std.TreeMap.map_fst_toList_eq_keys]
    exact names
  have sameContents : (left.prologue.toList.map fun entry => heap.contents entry.2) =
      right.prologue.toList.map fun entry => other.contents entry.2 := by
    have contents := congrArg (List.map Prod.snd) alike.initialValues
    simp only [LoopProgram.initialValues, List.map_map] at contents
    exact contents
  have each : ∀ entry ∈ left.initialValues heap, entry.2.HasShape (shapes entry.1) := by
    intro entry member
    rcases List.mem_map.1 member with ⟨bound, isBound, rfl⟩
    exact shaped.initialValues bound isBound
  have has : Datum.HaveShapes (left.prologue.toList.map fun entry => heap.contents entry.2)
      (left.prologue.keys.map shapes) := by
    have has := haveShapes_of_values each
    simp only [LoopProgram.initialValues, List.map_map] at has
    rw [← Std.TreeMap.map_fst_toList_eq_keys, List.map_map]
    exact has
  have built := (heapsMatch_refl heap other).buildAll .nil has
  unfold copyPrologue
  dsimp only
  rw [← sameContents, ← sameNames]
  generalize Datum.buildAll _ heap _ = first at built
  generalize Datum.buildAll _ other _ = second at built
  rcases built with ⟨later, grows, heaps, same⟩
  exact ⟨later, grows, heaps, tablesAlike_ofList same⟩

theorem statesMatch_start (shaped : left.IsShaped shapes heap) (policy : Policy)
    (limiter otherLimiter : Limiter) :
    ∃ layout, (pairOf heap other left right shapes policy limiter otherLimiter).StatesMatch layout
      (start left heap limiter) (start right other otherLimiter) := by
  rcases copyPrologue_leads alike shaped with ⟨later, _, heaps, store⟩
  exact ⟨later,
    { heaps
      store
      types := get?_eq_of_toList_eq alike.types
      locals := .none
      memory := rfl
      iterations := rfl
      faults := rfl
      ticks := ⟨rfl, rfl, rfl⟩
      otherTicks := ⟨rfl, rfl, rfl⟩ }⟩

theorem result_eq {policy : Policy} {limiter otherLimiter : Limiter} {layout : Layout}
    {state otherState : State}
    (states : (pairOf heap other left right shapes policy limiter otherLimiter).StatesMatch layout
      state otherState) : result left state = result right otherState := by
  have updates : (left.captures.toList.filterMap fun name =>
      (state.store.get? name).map fun value => (name, state.heap.contents value)) =
      left.captures.toList.filterMap fun name =>
        (otherState.store.get? name).map fun value => (name, otherState.heap.contents value) := by
    apply List.filterMap_congr
    intro name _
    exact map_eq_map_of_rel (states.store name) fun same =>
      congrArg (Prod.mk name) (states.heaps.contents_eq ⟨_, same⟩)
  rw [result, result, ← alike.captures, updates, states.memory]

/-- Programs that read the same end the same wherever they run, if they may nest as many calls. -/
theorem endsLike_of_readsAlike (shaped : left.IsShaped shapes heap) (policy : Policy)
    {limiter otherLimiter : Limiter} (untimed : limiter.deadline = none)
    (otherUntimed : otherLimiter.deadline = none)
    (sameRoom : limiter.maxDepth + otherLimiter.depth = otherLimiter.maxDepth + limiter.depth) :
    EndsLike (run left policy heap limiter).1 (run right policy other otherLimiter).1 := by
  have sound := isSound_pairOf alike shaped policy untimed otherUntimed sameRoom
  rcases statesMatch_start alike shaped policy limiter otherLimiter with ⟨layout, states⟩
  have sameDepth : otherLimiter.maxDepth - otherLimiter.depth = limiter.maxDepth - limiter.depth := by
    omega
  have ended := @Pair.inStep_execute _ _ _ sound
    (Pair.callsInStep_callFunction (limiter.maxDepth - limiter.depth) sound) false .skip left.body
    layout shaped.body _ _ states
  unfold run
  dsimp only
  rw [sameDepth, ← alike.body]
  unfold pairOf at ended states
  dsimp only at ended
  generalize execute _ false .skip left.body _ (start left heap limiter) = first at ended
  generalize execute _ false .skip left.body _ (start right other otherLimiter) = second at ended
  cases ended with
  | ok _ statesAfter _ =>
      dsimp only
      rw [result_eq alike statesAfter]
      exact .same _
  | error _ _ isLike =>
      rcases isLike with (fault | halt) | ⟨depth, otherDepth⟩
      · exact .same _
      · exact .same _
      · exact .tooDeep depth otherDepth

end

end Machine

/-! ## Texts and outcomes -/

namespace LoopRun

variable {policy : Policy} {library : Library} {floats : Float → Prop}

/-- A run whose program can be read off its text, and whose variables keep their shapes, before any
deadline. -/
structure IsDetermined (floats : Float → Prop) (run : LoopRun policy library) : Prop where
  legible : run.lowered.program.IsLegible library floats run.state.heap
  shaped : ∃ shapes, run.lowered.program.IsShaped shapes run.state.heap
  untimed : run.state.run.limiter.deadline = none

def room (run : LoopRun policy library) : Int :=
  run.state.run.limiter.maxDepth - run.state.run.limiter.depth

theorem endsLike_of_text_eq (apart : Float.AreToldApart floats) {run other : LoopRun policy library}
    (determined : run.IsDetermined floats) (otherDetermined : other.IsDetermined floats)
    (sameRoom : run.room = other.room) (sameText : run.text = other.text) :
    Machine.EndsLike run.outcome other.outcome := by
  have alike := LoopProgram.readsAlike_of_render_eq apart determined.legible otherDetermined.legible
    sameText
  rcases determined.shaped with ⟨shapes, shaped⟩
  apply Machine.endsLike_of_readsAlike alike shaped policy determined.untimed otherDetermined.untimed
  unfold room at sameRoom
  omega

theorem ofOutcome?_eq {outcome other : Except Machine.Halt LoopResult}
    (like : Machine.EndsLike outcome other) :
    CachedLoop.ofOutcome? outcome = CachedLoop.ofOutcome? other := by
  cases like with
  | same => rfl
  | tooDeep => rfl

/-- The text of a program determines how it ends, among programs that can be read off their texts. So
what is remembered under the text of such a program is its own outcome, if only such programs were offered
before: a loop is dealt with as its own program ends, whether this is run or not. -/
theorem outcome_determined_by_text (apart : Float.AreToldApart floats) :
    (∀ run other : LoopRun policy library, run.IsDetermined floats → other.IsDetermined floats →
        run.room = other.room → run.text = other.text →
        Machine.EndsLike run.outcome other.outcome) ∧
      ∀ run : LoopRun policy library, run.IsDetermined floats →
        run.state.caches.RemembersLoops (fun earlier : LoopRun policy library =>
          earlier.IsDetermined floats ∧ earlier.room = run.room) →
        (∀ entry, run.state.caches.loops.get? run.text = some entry →
          CachedLoop.ofOutcome? run.outcome = some entry) ∧
        ∀ outcome, (Eval.offerLoop run.loop).outcome run.environment run.state = .ok outcome →
          (outcome.isMerged = true → ∃ result, run.outcome = .ok result ∧
            (run.state.mergeResult run.environment result run.lowered.certain).IsUntouched
              ((Eval.offerLoop run.loop).after run.environment run.state)) ∧
          (outcome.isMerged = false → ∃ halt, run.outcome = .error halt) := by
  refine ⟨fun run other determined otherDetermined => endsLike_of_text_eq apart determined
    otherDetermined, fun run determined remembers => ?_⟩
  have remembered : ∀ entry, run.state.caches.loops.get? run.text = some entry →
      CachedLoop.ofOutcome? run.outcome = some entry := by
    intro entry found
    rcases remembers.areOutcomes run.text entry found with
      ⟨earlier, ⟨earlierDetermined, sameRoom⟩, sameText, isOutcome⟩
    rw [← ofOutcome?_eq (endsLike_of_text_eq apart earlierDetermined determined sameRoom sameText)]
    exact isOutcome
  exact ⟨remembered, fun outcome offered => run.offerLoop_eq remembered offered⟩

/-! ### An array that is filled in two heaps -/

private def holdsIntegers : Datum → Bool
  | .integer _ => true
  | .list items => items.all fun
    | .integer _ => true
    | _ => false
  | _ => false

private theorem isPlain_of_holdsIntegers {datum : Datum} (holds : holdsIntegers datum = true) :
    datum.IsPlain (fun _ => False) ∧ datum.HasShape (.list .scalar) := by
  cases datum with
  | integer value => exact ⟨trivial, trivial⟩
  | list items =>
      simp only [holdsIntegers] at holds
      rw [Datum.IsPlain, Datum.HasShape]
      suffices Datum.ArePlain (fun _ => False) items ∧
          Datum.HaveShapes items (items.map fun _ => .scalar) from
        ⟨this.1, .scalar, rfl, this.2⟩
      induction items with
      | nil => simp [Datum.ArePlain, Datum.HaveShapes]
      | cons item rest induction =>
          simp only [List.all_cons, Bool.and_eq_true] at holds
          rcases induction holds.2 with ⟨plain, has⟩
          cases item with
          | integer value =>
              rw [List.map_cons, Datum.ArePlain, Datum.HaveShapes]
              exact ⟨⟨trivial, plain⟩, trivial, has⟩
          | _ => cases holds.1
  | _ => cases holds

private def fillingStatement (lower upper : Int64) (operator : BinaryOperator) : LoopStatement :=
  .forRange "i" (.constant (.integer lower)) (.constant (.integer upper)) none
    [.assignElement "a" [.var "i"] (.binary operator (.index "a" [.var "i"]) (.var "i"))]

private def isFillingStatement : LoopStatement → Bool
  | .forRange index (.constant (.integer _)) (.constant (.integer _)) none
      [.assignElement array [.var first] (.binary _ (.index other [.var second]) (.var third))] =>
      [index, array, first, other, second, third] == ["i", "a", "i", "a", "i", "i"]
  | _ => false

private theorem eq_of_isFillingStatement {statement : LoopStatement}
    (isFilling : isFillingStatement statement = true) :
    ∃ lower upper operator, statement = fillingStatement lower upper operator := by
  unfold isFillingStatement at isFilling
  split at isFilling
  · rename_i lower upper array first operator other second third
    simp only [beq_iff_eq, List.cons.injEq, and_true] at isFilling
    rcases isFilling with ⟨rfl, rfl, rfl, rfl, rfl, rfl⟩
    exact ⟨lower, upper, operator, rfl⟩
  · cases isFilling

private def isFillingProgram (heap : Heap) (program : LoopProgram) : Bool :=
  program.prologue.toList.all (fun entry => ["a", "i"].contains entry.1 &&
      holdsIntegers (heap.contents entry.2)) &&
    program.types.toList == [] && program.shared.toList == ["a", "i"] &&
    program.functions.toList.isEmpty && isFillingStatement program.body &&
    program.captures.toList == ["a", "i"]

private theorem isCodeName_index : IsCodeName "i" :=
  ⟨by decide, ⟨'i', by decide, by decide⟩, by decide, by decide⟩

private theorem isCodeName_array : IsCodeName "a" :=
  ⟨by decide, ⟨'a', by decide, by decide⟩, by decide, by decide⟩

private theorem isLegible_fillingStatement (lower upper : Int64) (operator : BinaryOperator) :
    (fillingStatement lower upper operator).IsLegible {} fun _ => False := by
  have variableIsLegible {name : String} (isName : IsCodeName name) :
      LoopExpr.IsLegible {} (fun _ => False) (.var name) := by
    rw [LoopExpr.IsLegible]
    exact isName
  have index : LoopExpr.AreLegible {} (fun _ => False) [.var "i"] := by
    rw [LoopExpr.AreLegible, LoopExpr.AreLegible]
    exact ⟨variableIsLegible isCodeName_index, trivial⟩
  have element : LoopExpr.IsLegible {} (fun _ => False) (.index "a" [.var "i"]) := by
    rw [LoopExpr.IsLegible]
    exact ⟨isCodeName_array, index⟩
  have sum : LoopExpr.IsLegible {} (fun _ => False)
      (.binary operator (.index "a" [.var "i"]) (.var "i")) := by
    rw [LoopExpr.IsLegible]
    exact ⟨element, variableIsLegible isCodeName_index⟩
  have constant (value : Int64) :
      LoopExpr.IsLegible {} (fun _ => False) (.constant (.integer value)) := by
    rw [LoopExpr.IsLegible]
    trivial
  rw [fillingStatement, LoopStatement.IsLegible, LoopStatement.AreLegible, LoopStatement.AreLegible,
    LoopStatement.IsLegible]
  exact ⟨isCodeName_index, constant lower, constant upper, by simp, ⟨isCodeName_array, index, sum⟩,
    trivial⟩

private theorem isShaped_fillingStatement (lower upper : Int64) (operator : BinaryOperator)
    (functions : Std.TreeMap String LoopFunction) :
    (fillingStatement lower upper operator).IsShaped (fun _ => .list .scalar) functions := by
  have hasVariable : LoopExpr.HasShape (fun _ => .list .scalar) functions (.var "i")
      (.list .scalar) := by
    rw [LoopExpr.HasShape]
  have hasIndex : LoopExpr.HaveShapes (fun _ => .list .scalar) functions [.var "i"]
      [.list .scalar] := by
    rw [LoopExpr.HaveShapes, LoopExpr.HaveShapes]
    exact ⟨hasVariable, trivial⟩
  have hasElement : LoopExpr.HasShape (fun _ => .list .scalar) functions (.index "a" [.var "i"])
      .scalar := by
    rw [LoopExpr.HasShape]
    exact ⟨⟨_, hasIndex⟩, rfl⟩
  have hasSum : LoopExpr.HasShape (fun _ => .list .scalar) functions
      (.binary operator (.index "a" [.var "i"]) (.var "i")) .scalar := by
    rw [LoopExpr.HasShape]
    exact ⟨⟨_, hasElement⟩, _, hasVariable⟩
  have constant (value : Int64) :
      LoopExpr.IsShaped (fun _ => .list .scalar) functions (.constant (.integer value)) :=
    ⟨.scalar, by rw [LoopExpr.HasShape]; rfl⟩
  simp only [fillingStatement, LoopStatement.IsShaped, LoopStatement.AreShaped]
  exact ⟨constant lower, constant upper, by simp, ⟨⟨_, hasIndex⟩, .scalar, hasSum, rfl⟩, trivial⟩

private theorem isUnmarked_name {name : String} (isName : ["a", "i"].contains name = true) :
    name ≠ "" ∧ Text.IsUnmarked name.toList := by
  rcases List.mem_pair.1 (List.elem_iff.1 isName) with rfl | rfl
  · exact ⟨by decide, isCodeName_array.unmarked⟩
  · exact ⟨by decide, isCodeName_index.unmarked⟩

private theorem isDetermined_of_isFillingProgram {policy : Policy} {run : LoopRun policy {}}
    (isFilling : isFillingProgram run.state.heap run.lowered.program = true)
    (untimed : run.state.run.limiter.deadline = none) : run.IsDetermined fun _ => False := by
  simp only [isFillingProgram, Bool.and_eq_true, beq_iff_eq, List.isEmpty_iff, List.all_eq_true]
    at isFilling
  rcases isFilling with ⟨⟨⟨⟨⟨prologue, types⟩, shared⟩, functions⟩, body⟩, captures⟩
  rcases eq_of_isFillingStatement body with ⟨lower, upper, operator, body⟩
  have areNames : ∀ name ∈ ["a", "i"], name ≠ "" ∧ Text.IsUnmarked name.toList :=
    fun name member => isUnmarked_name (List.elem_iff.2 member)
  have holds := fun entry member => isPlain_of_holdsIntegers (prologue entry member).2
  exact {
    legible := {
      initialValues := fun entry member =>
        ⟨(isUnmarked_name (prologue entry member).1).2, (holds entry member).1⟩
      types := by simp [types]
      shared := shared ▸ areNames
      functions := by simp [functions]
      body := body ▸ isLegible_fillingStatement lower upper operator
      captures := captures ▸ areNames }
    shaped := ⟨fun _ => .list .scalar, {
      initialValues := fun entry member => (holds entry member).2
      functions := by
        intro name function found
        rw [Std.TreeMap.get?_eq_getElem?, ← Std.TreeMap.mem_toList_iff_getElem?_eq_some,
          functions] at found
        cases found
      body := body ▸ isShaped_fillingStatement lower upper operator _ }⟩
    untimed }

private def bareEnvironment : Environment :=
  { library := {}, constants := {} }

private def fillingLoop : Statement :=
  .forRange "i" (.literal (.integer 1)) (.literal (.integer 2)) none [
    .assign (.call (.var "a") [.var "i"]) (.binary .add (.call (.var "a") [.var "i"]) (.var "i"))]

private def fillingState (earlier : List (Array Value)) : State :=
  let heap : Heap := { lists := earlier.toArray }
  let (array, heap) := heap.newList #[.integer 0, .integer 0, .integer 0]
  (State.start bareEnvironment none heap {}).bind .automatic "a" (.value array)

/-- A state with the array in another place, and with what is remembered of the loop. -/
private def fillingAgain : State :=
  { fillingState [#[.text "x"]] with
    caches := ((Eval.offerLoop fillingLoop).after bareEnvironment (fillingState [])).caches }

private def fillingLowered? (state : State) : Option Lowered :=
  (state.caller bareEnvironment).lower? fillingLoop

private def isFilling (state : State) : Bool :=
  (fillingLowered? state).any fun lowered => isFillingProgram state.heap lowered.program

private theorem isDetermined_of_isFilling {state : State} {lowered : Lowered}
    (filling : isFilling state = true) (untimed : state.run.limiter.deadline = none)
    (lowers : state.Lowers bareEnvironment fillingLoop lowered) :
    IsDetermined (fun _ => False)
      (⟨bareEnvironment, state, fillingLoop, lowered, rfl, rfl, lowers⟩ : LoopRun {} {}) := by
  rcases (Option.any_eq_true _ _).1 filling with ⟨found, isFound, filling⟩
  cases Option.some.inj (isFound.symm.trans lowers.lowers)
  exact isDetermined_of_isFillingProgram filling untimed

set_option maxRecDepth 100000 in
/-- The array is filled in one place, and what is remembered of this fills it in another. -/
theorem outcome_determined_by_text_filling :
    ∃ run other : LoopRun {} {}, run.state = fillingState [] ∧ other.state = fillingAgain ∧
      run.loop = fillingLoop ∧ other.loop = fillingLoop ∧
      run.text = other.text ∧ Machine.EndsLike run.outcome other.outcome ∧
      (Eval.offerLoop other.loop).outcome other.environment other.state = .ok .reused ∧
      ∃ result, other.outcome = .ok result ∧
        (other.state.mergeResult other.environment result other.lowered.certain).IsUntouched
          ((Eval.offerLoop other.loop).after other.environment other.state) := by
  have first : isFilling (fillingState []) = true := by decide +kernel
  have again : isFilling fillingAgain = true := by decide +kernel
  have sameTexts :
      (fillingLowered? (fillingState [])).map (·.program.render (fillingState []).heap) =
        (fillingLowered? fillingAgain).map (·.program.render fillingAgain.heap) := by decide +kernel
  have reused : (Eval.offerLoop fillingLoop).outcome bareEnvironment fillingAgain = .ok .reused := by
    decide +kernel
  rcases (Option.any_eq_true _ _).1 first with ⟨lowered, isLowered, _⟩
  rcases (Option.any_eq_true _ _).1 again with ⟨loweredAgain, isLoweredAgain, _⟩
  rw [isLowered, isLoweredAgain] at sameTexts
  have lowers : (fillingState []).Lowers bareEnvironment fillingLoop lowered :=
    ⟨by decide +kernel, isLowered⟩
  have lowersAgain : fillingAgain.Lowers bareEnvironment fillingLoop loweredAgain :=
    ⟨by decide +kernel, isLoweredAgain⟩
  let run : LoopRun {} {} :=
    ⟨bareEnvironment, fillingState [], fillingLoop, lowered, rfl, rfl, lowers⟩
  let other : LoopRun {} {} :=
    ⟨bareEnvironment, fillingAgain, fillingLoop, loweredAgain, rfl, rfl, lowersAgain⟩
  have determined : run.IsDetermined fun _ => False := isDetermined_of_isFilling first rfl lowers
  have otherDetermined : other.IsDetermined fun _ => False :=
    isDetermined_of_isFilling again rfl lowersAgain
  have shared : fillingAgain.caches =
      ((Eval.offerLoop fillingLoop).after bareEnvironment (fillingState [])).caches := rfl
  have remembers : fillingAgain.caches.RemembersLoops fun earlier : LoopRun {} {} =>
      earlier.IsDetermined (fun _ => False) ∧ earlier.room = other.room := by
    rw [shared]
    exact .offered fillingLoop .nothing rfl rfl fun _ lowers =>
      ⟨isDetermined_of_isFilling first rfl lowers, rfl⟩
  have apart : Float.AreToldApart fun _ => False := fun _ _ impossible => impossible.elim
  rcases @outcome_determined_by_text {} {} (fun _ => False) apart with ⟨ends, dealtWith⟩
  rcases dealtWith other otherDetermined remembers with ⟨_, offered⟩
  exact ⟨run, other, rfl, rfl, rfl, rfl, Option.some.inj sameTexts,
    ends run other determined otherDetermined rfl (Option.some.inj sameTexts), reused,
    (offered .reused reused).1 rfl⟩

end LoopRun

end MacroSandbox
