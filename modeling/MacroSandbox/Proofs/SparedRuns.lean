import MacroSandbox.Proofs.SparedEvaluations

/-! The interpreter spares a reserve.

An evaluation of code that does not refer to a reserve, from a state that does not refer to it, ends in
such a state. There is one lemma for each function of the interpreter. -/

namespace MacroSandbox

/-! ## Parts of the interpreter -/

/-- An engine spares a reserve with all code that does not refer to it. -/
structure Engine.Spares (base : Reserve) (environment : Environment) (engine : Engine) : Prop where
  node : ∀ expression, (Node.expr expression).Spares base →
    (engine.node expression).Spares base environment base.IsApart
  operand : ∀ expression, (Node.expr expression).Spares base →
    (engine.operand expression).Spares base environment base.IsApart
  block : ∀ statements, Statement.ListSpares base statements →
    (engine.block statements).Spares base environment fun _ => True
  call : ∀ procedure, (Node.procedure procedure).Spares base → ∀ arguments,
    (∀ value ∈ arguments, base.IsApart value) →
      (engine.call procedure arguments).Spares base environment base.IsApart

namespace Engine.Spares

open Eval.Spares

variable {base : Reserve} {environment : Environment} {engine : Engine}
  (spares : engine.Spares base environment) (outside : environment.Spares base)

/-! ### Names -/

theorem siblingValue?_isApart {scope : Scope} (sparesScope : scope.Spares base) {heap : Heap}
    {lower : String} : ∀ value ∈ siblingValue? scope heap lower, base.IsApart value := by
  intro value found
  unfold siblingValue? at found
  split at found
  · rcases Option.map_eq_some_iff.1 found with ⟨held, bound, rfl⟩
    split
    · trivial
    · exact sparesScope.isApart_of_get? bound
  · split at found
    · exact sparesScope.isApart_of_get? found
    · cases found

theorem find?_isApart {text : DocumentText} {collection identifier : String} :
    ∀ value ∈ ObjectText.find? text collection identifier, base.IsApart value := by
  intro value found
  unfold ObjectText.find? at found
  split at found
  · cases found
    trivial
  · rcases Option.map_eq_some_iff.1 found with ⟨content, _, rfl⟩
    trivial

theorem atPath?_isApart {text : DocumentText} {path : String} :
    ∀ value ∈ ObjectText.atPath? text path, base.IsApart value := by
  intro value found
  unfold ObjectText.atPath? at found
  simp only [Option.bind_eq_bind, Option.mem_def, Option.bind_eq_some_iff] at found
  rcases found with ⟨collection, _, identifier, _, found⟩
  exact find?_isApart value found

section

include spares outside

theorem callFunction? (name : String) {arguments : List Value}
    (apart : ∀ value ∈ arguments, base.IsApart value) :
    (engine.callFunction? name arguments).Spares base environment fun found =>
      ∀ value ∈ found, base.IsApart value := by
  have answered {value : Value} (isApart : base.IsApart value) :
      (Pure.pure (some value) : Eval (Option Value)).Spares base environment fun found =>
        ∀ value ∈ found, base.IsApart value := by
    refine .pure ?_
    rintro _ ⟨⟩
    exact isApart
  refine .bind (procedure? outside name) fun procedure found => ?_
  split
  · exact .bind (spares.call _ (found _ rfl) _ apart) fun _ => answered
  · refine .read_bind (.read_bind ?_)
    split
    · dsimp only
      split
      · exact .bind (callLibrary _ apart) fun _ => answered
      · exact answered trivial
    · split
      · exact .bind (callLibrary _ apart) fun _ => answered
      · exact .pure nofun

theorem pathValue? (path : String) :
    (engine.pathValue? path).Spares base environment fun found =>
      ∀ value ∈ found, base.IsApart value := by
  refine .bind (scope outside) fun scope sparesScope => .get_bind fun _ _ => ?_
  dsimp only
  split
  · rename_i found
    rcases List.exists_of_findSome?_eq_some found with ⟨tail, _, read⟩
    refine .pure ?_
    rintro _ ⟨⟩
    exact sparesScope.isApart_of_get? (Option.eq_some_of_filter_eq_some read)
  · exact .pure nofun
  · refine .read_bind ?_
    split
    · exact spares.callFunction? outside _ nofun
    · exact .pure nofun

theorem dottedValue? (path : String) :
    (engine.dottedValue? path).Spares base environment fun found =>
      ∀ value ∈ found, base.IsApart value := by
  have scalar (content : String) : ∀ found ∈ some (Value.text content), base.IsApart found := by
    rintro _ ⟨⟩
    trivial
  refine .read_bind ?_
  dsimp only
  split
  · exact .pure (scalar _)
  · refine .bind (spares.pathValue? outside path) fun value found => ?_
    split
    · exact .pure found
    · refine .bind (scope outside) fun scope sparesScope => .get_bind fun _ _ => ?_
      split
      · exact .pure (scalar _)
      · split
        · rename_i numbered
          rcases List.exists_of_findSome?_eq_some numbered with ⟨number, _, read⟩
          refine .pure ?_
          rintro _ ⟨⟩
          exact sparesScope.isApart_of_get? read
        · split
          · exact .pure (scalar _)
          · exact .pure nofun

theorem resolve (variableExpected : Bool) (name : String) :
    (engine.resolve variableExpected name).Spares base environment base.IsApart := by
  refine .bind check fun _ _ => .bind (scope outside) fun scope sparesScope => ?_
  split
  · exact .pure (sparesScope.isApart_of_get? ‹_›)
  · refine .get_bind fun _ _ => ?_
    split
    · exact .pure (siblingValue?_isApart sparesScope _ ‹_›)
    · refine .read_bind ?_
      split
      · exact .pure (atPath?_isApart _ ‹_›)
      · refine .bindEither (spares.dottedValue? outside _) (.pure nofun) fun dotted found => ?_
        dsimp only
        split
        · exact .pure (found _ rfl)
        · split <;> exact .pure trivial

end

/-! ### Operands -/

section

include spares

theorem operands {expressions : List Expr}
    (spared : ∀ expression ∈ expressions, (Node.expr expression).Spares base) :
    (engine.operands expressions).Spares base environment fun values =>
      ∀ value ∈ values, base.IsApart value := by
  induction expressions with
  | nil => exact .pure nofun
  | cons expression rest induction =>
      refine .bind (spares.operand _ (spared _ (.head _))) fun first firstApart =>
        .bind (induction fun _ member => spared _ (.tail _ member)) fun others othersApart =>
        .pure fun value member => ?_
      rcases List.mem_cons.1 member with rfl | member
      · exact firstApart
      · exact othersApart value member

theorem locateCell {arguments : CellArguments}
    (spared : arguments.AreAmong fun argument => (Node.expr argument).Spares base) :
    (engine.locateCell arguments).Spares base environment fun _ => True := by
  cases arguments with
  | reference sheet reference =>
      exact .bind (spares.operand sheet spared.1) fun _ _ =>
        .bind (spares.operand reference spared.2) fun _ _ => .bind (text _) fun _ _ => .pure trivial
  | position sheet row column =>
      exact .bind (spares.operand sheet spared.1) fun _ _ =>
        .bind (spares.operand row spared.2.1) fun _ _ =>
        .bind (spares.operand column spared.2.2) fun _ _ => .pure trivial
  | other sheet => exact .bind (spares.operand sheet spared) fun _ _ => .pure trivial

end

section

include spares outside

theorem readCell? {expression : Expr} (spared : (Node.expr expression).Spares base) :
    (engine.readCell? expression).Spares base environment fun found =>
      ∀ value ∈ found, base.IsApart value := by
  refine .read_bind ?_
  split
  · exact .pure nofun
  · rename_i workbook document
    split
    · exact .pure nofun
    · rename_i arguments read
      have among := (Expr.areAmong_cellArguments? read).imp fun _ => spared.contained
      refine .bind (spares.locateCell among) fun found _ => ?_
      dsimp only
      split
      · refine .get_bind fun state _ => .pure fun value filled => ?_
        rcases Option.bind_eq_some_iff.1 filled with ⟨sheet, _, filled⟩
        exact outside.cells workbook document _ _ value filled
      · exact .pure nofun

end

section

include spares

theorem readObjectText? {expression : Expr} (spared : (Node.expr expression).Spares base) :
    (engine.readObjectText? expression).Spares base environment fun found =>
      ∀ value ∈ found, base.IsApart value := by
  unfold Engine.readObjectText?
  split
  · rename_i object name
    dsimp only
    split
    · rename_i collection argument found
      have argumentSpared : (Node.expr argument).Spares base := by
        cases isChain : (Expr.member object name).links? with
        | none =>
            rw [isChain] at found
            cases found
        | some links =>
            rw [isChain] at found
            exact spared.contained (Expr.contains_of_links? isChain (List.mem_of_find?_eq_some found)
              rfl (.head _))
      refine .bind (spares.operand _ argumentSpared) fun _ _ => .bind (text _) fun _ _ =>
        .read_bind (.pure ?_)
      exact find?_isApart
    · exact .pure nofun
  · exact .pure nofun

/-! ### Expressions -/

omit spares in
theorem putBack {receiver : Receiver} (spared : receiver.Spares base) {state : State}
    (sparesState : state.Spares base) : (Engine.putBack receiver state).Spares base := by
  refine { sparesState with frame := { sparesState.frame with receivers := ?_ } }
  intro other member
  rcases List.mem_cons.1 member with rfl | member
  · exact spared
  · exact sparesState.frame.receivers other member

omit spares in
theorem rememberReceiver {value : Value} (apart : base.IsApart value) :
    (Eval.modifyFrame (Engine.rememberReceiver value)).Spares base environment fun _ => True := by
  refine .modifyFrame fun frame sparesFrame => ?_
  unfold Engine.rememberReceiver
  split
  · exact sparesFrame
  · rename_i first others same
    have before := sparesFrame.receivers
    rw [same] at before
    refine { sparesFrame with receivers := fun other member => ?_ }
    rcases List.mem_cons.1 member with rfl | member
    · refine ⟨(before first (.head _)).object, ?_⟩
      rintro _ ⟨⟩
      exact apart
    · exact before other (.tail _ member)

/-- The object of a `With` block is evaluated outside of the block at its first use. -/
theorem evaluateReceiver {receiver : Receiver} (spared : receiver.Spares base) :
    (do
      Eval.popReceiver
      let outcome ←
        Eval.afterwards (Eval.attempt (engine.node receiver.object)) (Engine.putBack receiver)
      let value := outcome.toOption.getD .null
      Eval.modifyFrame (Engine.rememberReceiver value)
      return some value : Eval (Option Value)).Spares base environment fun found =>
        ∀ value ∈ found, base.IsApart value := by
  refine .bind popReceiver fun _ _ =>
    .bind (.afterwards (.attempt (spares.node _ spared.object)) fun _ => putBack spared)
      fun outcome answers => ?_
  have apart : base.IsApart (outcome.toOption.getD .null) := by
    cases outcome with
    | error fault => trivial
    | ok value => exact answers value rfl
  refine .bind (rememberReceiver apart) fun _ _ => .pure ?_
  rintro _ ⟨⟩
  exact apart

theorem receiverValue? :
    engine.receiverValue?.Spares base environment fun found =>
      ∀ value ∈ found, base.IsApart value := by
  unfold Engine.receiverValue?
  intro state sparesState
  have ofReceivers := sparesState.frame.receivers
  rw [Running.run_bind, Running.run_get]
  dsimp only
  cases known : state.frame.receivers with
  | nil => exact ⟨sparesState, nofun⟩
  | cons receiver outer =>
      have innermost := ofReceivers receiver (by rw [known]; exact .head _)
      dsimp only
      cases isKnown : receiver.value with
      | some value =>
          refine ⟨sparesState, ?_⟩
          rintro _ ⟨⟩
          exact innermost.value value isKnown
      | none => exact spares.evaluateReceiver innermost state sparesState

theorem objectValue {object : Expr} (spared : (Node.expr object).Spares base) :
    (engine.objectValue object).Spares base environment base.IsApart := by
  unfold Engine.objectValue
  split
  · refine .bind spares.receiverValue? fun found areApart => .pure ?_
    cases found with
    | none => trivial
    | some value => exact areApart value rfl
  · exact spares.operand _ spared

end

section

include spares outside

theorem variableValue (name : String) :
    (engine.variableValue name).Spares base environment base.IsApart := by
  unfold Engine.variableValue
  split
  · exact .get_bind fun _ _ => .pure trivial
  · refine .bind (lookup? outside name) fun value found => ?_
    split
    · exact .pure (found _ rfl)
    · refine .bind (procedure? outside name) fun procedure found => ?_
      split
      · exact spares.call _ (found _ rfl) _ nofun
      · refine .read_bind ?_
        split
        · exact callLibrary _ nofun
        · exact spares.resolve outside _ _

omit spares in
theorem ownProperty? (object : Expr) {value : Value} (apart : base.IsApart value) (name : String) :
    (Engine.ownProperty? object value name).Spares base environment fun found =>
      ∀ value ∈ found, base.IsApart value := by
  refine .bind (containerProperty? apart _) fun property found => ?_
  split
  · exact .pure found
  · split
    · split
      · exact lookup? outside _
      · exact .pure nofun
    · exact .pure nofun

theorem memberValue {object : Expr} {name : String} (spared : (Node.expr object).Spares base) :
    (engine.memberValue object name).Spares base environment base.IsApart := by
  have property (error : ErrorInfo) (lower : String) : base.IsApart (error.property lower) := by
    unfold ErrorInfo.property
    split
    · trivial
    · split <;> trivial
  unfold Engine.memberValue
  split
  · exact .get_bind fun _ _ => .pure (property _ _)
  · refine .get_bind fun _ _ => .bind (lookup? outside _) fun value found => ?_
    split
    · exact .pure (found _ rfl)
    · refine .bind (spares.objectValue spared) fun _ apart =>
        .bind (Engine.Spares.ownProperty? outside _ apart _) fun property found => ?_
      split
      · exact .pure (found _ rfl)
      · exact spares.resolve outside _ _

theorem callMethod (expression : Expr) {object : Expr} (name : String) {arguments : List Expr}
    (sparedObject : (Node.expr object).Spares base)
    (spared : ∀ argument ∈ arguments, (Node.expr argument).Spares base) :
    (engine.callMethod expression object name arguments).Spares base environment base.IsApart := by
  unfold Engine.callMethod
  dsimp only
  split
  · exact .bind (spares.operands spared) fun _ _ => callErrorMethod _ _
  · refine .bind (spares.objectValue sparedObject) fun container apart =>
      .bind (spares.operands spared) fun values areApart =>
      .bind (callContainerMethod? apart _ areApart) fun value found => ?_
    split
    · exact .pure (found _ rfl)
    · refine .read_bind ?_
      split
      · exact callLibrary _ areApart
      · refine .bind (procedure? outside name) fun procedure found => ?_
        split
        · exact spares.call _ (found _ rfl) _ areApart
        · exact .get_bind fun _ _ => spares.resolve outside _ _

theorem callByName (expression : Expr) (name : String) {arguments : List Expr}
    (spared : ∀ argument ∈ arguments, (Node.expr argument).Spares base) :
    (engine.callByName expression name arguments).Spares base environment base.IsApart := by
  refine .bind (spares.operands spared) fun values areApart =>
    .bind (spares.callFunction? outside name areApart) fun value found => ?_
  split
  · exact .pure (found _ rfl)
  · dsimp only
    split
    · exact .get_bind fun _ _ => .pure trivial
    · exact .pure trivial

theorem callValue (expression : Expr) {callee : Expr} {arguments : List Expr}
    (sparedCallee : (Node.expr callee).Spares base)
    (spared : ∀ argument ∈ arguments, (Node.expr argument).Spares base) :
    (engine.callValue expression callee arguments).Spares base environment base.IsApart := by
  have element {container : Value} (apart : base.IsApart container) :
      (do
        let indices ← engine.operands arguments
        Eval.lift (indexValue (← get).heap container indices)).Spares base environment
          base.IsApart :=
    .bind (spares.operands spared) fun indices _ => .get_bind fun state sparesState =>
      .lift fun value read => sparesState.heap.isApart_indexValue indices apart read
  unfold Engine.callValue
  split
  · refine .bind (lookup? outside _) fun value found => ?_
    split
    · exact element (found _ (Option.eq_some_of_filter_eq_some ‹_›))
    · exact spares.callByName outside _ _ spared
  · exact spares.callMethod outside _ _ (sparedCallee.part .object) spared
  · exact .bind (spares.node _ sparedCallee) fun container apart => element apart

theorem nodeValue {expression : Expr} (spared : (Node.expr expression).Spares base) :
    (engine.nodeValue expression).Spares base environment base.IsApart := by
  refine .bind tick fun _ _ => ?_
  cases expression with
  | literal value => exact .pure spared.literal
  | var name => exact spares.variableValue outside name
  | receiver =>
      refine .bind spares.receiverValue? fun found areApart => .pure ?_
      cases found with
      | none => trivial
      | some value => exact areApart value rfl
  | unary operator operand =>
      exact .bind (spares.operand _ (spared.part .operand)) fun _ _ =>
        .pure (Reserve.isApart_of_not_isReference (operator.isReference_apply _))
  | binary operator left right =>
      exact .bind (spares.operand _ (spared.part .left)) fun _ _ =>
        .bind (spares.operand _ (spared.part .right)) fun _ _ => .get_bind fun _ _ =>
        .lift fun _ applied =>
          Reserve.isApart_of_not_isReference (BinaryOperator.isReference_of_apply applied)
  | member object name => exact spares.memberValue outside (spared.part .object)
  | call callee arguments =>
      exact spares.callValue outside _ (spared.part .callee) fun _ inside =>
        spared.part (.argument inside)

theorem documentOrNodeValue {expression : Expr} (spared : (Node.expr expression).Spares base) :
    (engine.documentOrNodeValue expression).Spares base environment base.IsApart := by
  refine .bind (spares.readCell? outside spared) fun value found => ?_
  split
  · exact .pure (found _ rfl)
  · refine .bind (spares.readObjectText? spared) fun value found => ?_
    split
    · exact .pure (found _ rfl)
    · refine .bind (spares.nodeValue outside spared) fun value apart => ?_
      split
      · rename_i content
        refine .read_bind (.pure ?_)
        cases read : ObjectText.atPath? environment.text content with
        | none => trivial
        | some value => exact atPath?_isApart _ read
      · exact .pure apart

omit spares outside in
theorem cachedConstant? (source : String) :
    (Engine.cachedConstant? source).Spares base environment fun found =>
      ∀ value ∈ found, base.IsApart value := by
  intro state sparesState
  have remembered := sparesState.remembered source
  unfold Engine.cachedConstant? Caches.constant?
  rw [Running.run_modifyGet]
  dsimp only
  cases known : state.caches.constants.get? source with
  | none => exact ⟨{ sparesState with }, nofun⟩
  | some value =>
      refine ⟨{ sparesState with }, ?_⟩
      rintro _ ⟨⟩
      exact remembered value known

omit spares outside in
theorem rememberConstant (source : String) {value : Value} (apart : base.IsApart value) :
    (Engine.rememberConstant source value).Spares base environment fun _ => True := by
  refine .modify fun state sparesState => { sparesState with remembered := ?_ }
  intro other found known
  dsimp only [Caches.storeConstant] at known
  split at known
  · rw [Std.TreeMap.get?_eq_getElem?, Std.TreeMap.getElem?_insertIfNew] at known
    split at known
    · cases known
      exact apart
    · exact sparesState.remembered other found known
  · exact sparesState.remembered other found known

theorem constantValue {expression : Expr} (spared : (Node.expr expression).Spares base) :
    (engine.constantValue expression).Spares base environment base.IsApart := by
  refine .get_bind fun _ _ => .bind (cachedConstant? _) fun value found => ?_
  split
  · exact .pure (found _ rfl)
  · exact .bind (spares.nodeValue outside spared) fun value apart =>
      .bind (rememberConstant _ apart) fun _ _ => .pure apart

theorem operandValue {expression : Expr} (spared : (Node.expr expression).Spares base) :
    (engine.operandValue expression).Spares base environment base.IsApart := by
  refine .bind check fun _ _ => ?_
  split
  · exact .pure spared.literal
  · split
    · exact spares.constantValue outside spared
    · exact spares.documentOrNodeValue outside spared

/-! ### Declarations and assignments -/

omit outside in
theorem initialValue {declaration : Declaration}
    (spared : ∀ bound ∈ declaration.bounds, (Node.expr bound).Spares base) :
    (engine.initialValue declaration).Spares base environment base.IsApart := by
  unfold Engine.initialValue
  split
  · exact .pure (Reserve.isApart_of_not_isReference (isReference_initial _))
  · exact .bind (spares.operands spared) fun _ _ => .onHeap fun _ separate =>
      separate.newArray _ _

omit outside in
theorem declare {declarations : List Declaration}
    (spared : ∀ declaration ∈ declarations, ∀ bound ∈ declaration.bounds,
      (Node.expr bound).Spares base) :
    (engine.declare declarations).Spares base environment fun _ => True := by
  induction declarations with
  | nil => exact .pure trivial
  | cons declaration rest induction =>
      exact .bind (spares.initialValue (spared _ (.head _))) fun value apart => .get_bind fun _ _ =>
        .bind (assignVariable _ _ _ apart) fun _ _ =>
        induction fun _ member => spared _ (.tail _ member)

theorem assignMiddle {arguments : List Expr}
    (spared : ∀ argument ∈ arguments, (Node.expr argument).Spares base) (value : Value) :
    (engine.assignMiddle arguments value).Spares base environment fun _ => True := by
  unfold Engine.assignMiddle
  split
  · rename_i name start rest
    refine .bind (scope outside) fun scope _ =>
      .bind (.lift fun _ _ => trivial : Eval.Spares base environment (fun _ => True) _) fun _ _ =>
      .bind (text _) fun current _ =>
      .bind (spares.operand start (spared _ (.tail _ (.head _)))) fun start _ => ?_
    have overwritten (count : Option Value) : Eval.Spares base environment (fun _ => True) (do
        let replacement ← Eval.text value
        let updated ← Eval.lift (TextFunction.overwrite current start.toInteger.toInt
          (count.map fun count => count.toInteger.toInt) replacement)
        Eval.setVariable name (.text updated)) :=
      .bind (text _) fun _ _ =>
        .bind (.lift fun _ _ => trivial : Eval.Spares base environment (fun _ => True) _) fun _ _ =>
        setVariable _ trivial
    dsimp only
    split
    · exact .bind (.pure trivial : Eval.Spares base environment (fun _ => True) _)
        fun count _ => overwritten count
    · rename_i count _
      have counted : (some <$> engine.operand count).Spares base environment fun _ => True :=
        .map (spares.operand count (spared _ (.tail _ (.tail _ (.head _))))) fun _ _ => trivial
      exact .bind counted fun count _ => overwritten count
  · exact .throw _

omit spares outside in
theorem storeElement {container : Value} (apart : base.IsApart container) (indices : List Value)
    {value : Value} (valueApart : base.IsApart value) :
    (Eval.storeElement container indices value).Spares base environment fun _ => True := by
  refine .get_bind fun state sparesState => ?_
  have stored {slot : Slot} (slotApart : Reserve.Separates.SlotIsApart base slot) :
      (modify fun state => { state with heap := state.heap.write slot value } :
        Eval Unit).Spares base environment fun _ => True :=
    .modify fun _ spares => spares.withHeap (spares.heap.write slotApart valueApart)
  dsimp only
  split
  · exact stored apart
  · exact .bind (.lift fun _ found => sparesState.heap.slotIsApart_of_elementSlot _ apart found)
      fun _ slotApart => stored slotApart

omit outside in
theorem assignElement {container : Value} (apart : base.IsApart container) {arguments : List Expr}
    (spared : ∀ argument ∈ arguments, (Node.expr argument).Spares base) {value : Value}
    (valueApart : base.IsApart value) :
    (engine.assignElement container arguments value).Spares base environment fun _ => True :=
  .bind (spares.operands spared) fun _ _ => storeElement apart _ valueApart

theorem assign {target : Expr} (spared : (Node.expr target).Spares base) {value : Value}
    (apart : base.IsApart value) :
    (engine.assign target value).Spares base environment fun _ => True := by
  have setNamed : Eval.Spares base environment (fun _ => True) (do
      Eval.setVariable (target.render (← get).heap) value : Eval Unit) :=
    .get_bind fun _ _ => setVariable _ apart
  unfold Engine.assign
  dsimp only
  split
  · exact setVariable _ apart
  · rename_i arguments
    have sparedArguments : ∀ argument ∈ arguments, (Node.expr argument).Spares base :=
      fun _ inside => spared.part (.argument inside)
    split
    · exact spares.assignMiddle outside sparedArguments _
    · refine .bind (lookup? outside _) fun container found => ?_
      split
      · exact spares.assignElement (found _ (Option.eq_some_of_filter_eq_some ‹_›)) sparedArguments
          apart
      · exact setNamed
  · exact setNamed
  · exact setNamed
  · exact .get_bind fun _ _ => .throw _

/-! ### Loops -/

omit outside in
theorem runBody {body : List Statement} (spared : Statement.ListSpares base body) (ownExit : Flow) :
    (engine.runBody body ownExit).Spares base environment fun _ => True := by
  refine .bind (spares.block _ spared) fun _ _ => .bind mustHandleError fun _ _ => ?_
  split
  · exact .pure trivial
  · split
    · exact .pure trivial
    · split <;> exact .pure trivial

omit spares in
theorem advance (index : String) (step : Value) :
    (Engine.advance index step).Spares base environment fun _ => True :=
  .bind (variableOrNull outside _) fun _ _ => .get_bind fun _ _ =>
    .bind (.lift fun _ applied =>
      Reserve.isApart_of_not_isReference (BinaryOperator.isReference_of_apply applied))
      fun _ apart => setVariable _ apart

theorem runRange (index : String) (finish step : Value) (descending : Bool)
    {body : List Statement} (spared : Statement.ListSpares base body) (rounds : Nat) :
    (engine.runRange index finish step descending body rounds).Spares base environment
      fun _ => True := by
  induction rounds with
  | zero => exact .pure trivial
  | succ rounds induction =>
      refine .bind (variableOrNull outside _) fun _ _ => .get_bind fun _ _ => ?_
      split
      · exact .pure trivial
      · refine .bind (spares.runBody spared _) fun _ _ => ?_
        split
        · exact .pure trivial
        · exact .pure trivial
        · exact .bind (advance outside _ _) fun _ _ => induction

omit outside in
theorem runItems (index : String) {body : List Statement}
    (spared : Statement.ListSpares base body) (rounds : Nat) {items : List Value}
    (apart : ∀ item ∈ items, base.IsApart item) :
    (engine.runItems index body rounds items).Spares base environment fun _ => True := by
  induction rounds generalizing items with
  | zero => exact .pure trivial
  | succ rounds induction =>
      cases items with
      | nil => exact .pure trivial
      | cons item items =>
          refine .bind (setVariable _ (apart item (.head _))) fun _ _ =>
            .bind (spares.runBody spared _) fun _ _ => ?_
          split
          · exact .pure trivial
          · exact .pure trivial
          · exact induction fun item member => apart item (.tail _ member)

def SparesTest (base : Reserve) (condition : Option (LoopTest × Expr)) : Prop :=
  ∀ test ∈ condition, (Node.expr test.2).Spares base

omit outside in
theorem wantsRound {condition : Option (LoopTest × Expr)} (spared : SparesTest base condition) :
    (engine.wantsRound condition).Spares base environment fun _ => True := by
  unfold Engine.wantsRound
  split
  · exact .pure trivial
  · exact .bind (spares.operand _ (spared _ rfl)) fun _ _ => isTruthy _
  · exact .bind (spares.operand _ (spared _ rfl)) fun _ _ => .bind (isTruthy _) fun _ _ =>
      .pure trivial

omit outside in
theorem testWhen (tested : Bool) {condition : Option (LoopTest × Expr)}
    (spared : SparesTest base condition) :
    (engine.testWhen tested condition).Spares base environment fun _ => True := by
  unfold Engine.testWhen
  split
  · exact spares.wantsRound spared
  · exact .pure trivial

omit outside in
theorem runConditional {condition : Option (LoopTest × Expr)} (sparedTest : SparesTest base condition)
    (testFirst : Bool) {body : List Statement} (spared : Statement.ListSpares base body)
    (rounds : Nat) :
    (engine.runConditional condition testFirst body rounds).Spares base environment
      fun _ => True := by
  induction rounds with
  | zero => exact .bind (spares.testWhen _ sparedTest) fun _ _ => .pure trivial
  | succ rounds induction =>
      refine .bind (spares.testWhen _ sparedTest) fun _ _ => ?_
      split
      · exact .pure trivial
      · refine .bind (spares.runBody spared _) fun _ _ => ?_
        split
        · exact .pure trivial
        · exact .pure trivial
        · refine .bind (spares.testWhen _ sparedTest) fun _ _ => ?_
          split
          · exact .pure trivial
          · exact induction

omit outside in
theorem startRange (index : String) {start finish : Expr} {step : Option Expr}
    (sparedStart : (Node.expr start).Spares base) (sparedFinish : (Node.expr finish).Spares base)
    (sparedStep : ∀ expression ∈ step, (Node.expr expression).Spares base) :
    (engine.startRange index start finish step).Spares base environment fun _ => True := by
  have plain (value : Value) : base.IsApart value.toNumber :=
    Reserve.isApart_of_not_isReference (Value.isReference_toNumber value)
  refine .bind (spares.operand start sparedStart) fun _ _ =>
    .bind (spares.operand finish sparedFinish) fun _ _ => ?_
  dsimp only
  split
  · exact .bind (spares.operand _ (sparedStep _ rfl)) fun _ _ =>
      .bind (setVariable _ (plain _)) fun _ _ => .pure trivial
  · exact .bind (.pure trivial : Eval.Spares base environment (fun _ => True) _) fun _ _ =>
      .bind (setVariable _ (plain _)) fun _ _ => .pure trivial

theorem runLoop {loop : Statement} (spared : (Node.statement loop).Spares base) :
    (engine.runLoop loop).Spares base environment fun _ => True := by
  refine .read_bind ?_
  cases loop with
  | forRange index start finish step body =>
      have sparedStep : ∀ expression ∈ step, (Node.expr expression).Spares base := by
        rintro _ ⟨⟩
        exact spared.part .step
      exact .bind (spares.startRange _ (spared.part .start) (spared.part .finish) sparedStep)
        fun _ _ => spares.runRange outside _ _ _ _ (spared.body fun _ => .inRange) _
  | forEach index items body =>
      exact .bind (spares.operand _ (spared.part .items)) fun _ apart => .get_bind fun _ sparesState =>
        .bind (.lift fun _ listed => sparesState.heap.isApart_of_iterationItems apart listed)
          fun _ itemsApart => spares.runItems _ (spared.body fun _ => .inEach) _ itemsApart
  | whileLoop condition body =>
      have sparedTest : SparesTest base (some (.while, condition)) := by
        rintro _ ⟨⟩
        exact spared.part .whileTest
      exact spares.runConditional sparedTest _ (spared.body fun _ => .inWhile) _
  | doLoop condition testFirst body =>
      have sparedTest : SparesTest base condition := by
        rintro ⟨test, condition⟩ ⟨⟩
        exact spared.part .doTest
      exact spares.runConditional sparedTest _ (spared.body fun _ => .inDo) _
  | _ => exact .pure trivial

/-! ### Statements -/

omit outside in
theorem runBranch {otherwise : List Statement} {arms : List Arm}
    (sparedOtherwise : Statement.ListSpares base otherwise)
    (spared : ∀ condition body, .mk condition body ∈ arms →
      (Node.expr condition).Spares base ∧ Statement.ListSpares base body) :
    (engine.runBranch otherwise arms).Spares base environment fun _ => True := by
  induction arms with
  | nil => exact spares.block _ sparedOtherwise
  | cons arm rest induction =>
      cases arm with
      | mk condition body =>
          have first := spared condition body (.head _)
          refine .bind (spares.operand condition first.1) fun _ _ => .bind (isTruthy _) fun _ _ => ?_
          split
          · exact spares.block _ first.2
          · exact induction fun _ _ member => spared _ _ (.tail _ member)

omit outside in
theorem closeNumbered {numbers : List Expr}
    (spared : ∀ number ∈ numbers, (Node.expr number).Spares base) :
    (engine.closeNumbered numbers).Spares base environment fun _ => True := by
  induction numbers with
  | nil => exact .pure trivial
  | cons number rest induction =>
      exact .bind (spares.operand number (spared _ (.head _))) fun _ _ => .bind (text _) fun _ _ =>
        .bind (closeFile _) fun _ _ => induction fun _ member => spared _ (.tail _ member)

theorem runCall {expression : Expr} (spared : (Node.expr expression).Spares base) :
    (engine.runCall expression).Spares base environment fun _ => True := by
  unfold Engine.runCall
  split
  · exact .bind (spares.callValue outside _ spared nofun) fun _ _ => .pure trivial
  · exact .bind (spares.callValue outside _ (spared.part .callee)
      fun _ inside => spared.part (.argument inside)) fun _ _ => .pure trivial
  · exact .bind (spares.nodeValue outside spared) fun _ _ => .pure trivial

theorem runOfferedLoop {loop : Statement} (spared : (Node.statement loop).Spares base) :
    (do
      if (← read).policy.compileLoops then
        if ← Eval.compileLoop loop then return .continue
      engine.runLoop loop : Eval Flow).Spares base environment fun _ => True := by
  refine .read_bind ?_
  dsimp only
  split
  · refine .bind (compileLoop outside loop) fun _ _ => ?_
    split
    · exact .pure trivial
    · exact spares.runLoop outside spared
  · exact spares.runLoop outside spared

omit spares outside in
theorem errorTarget (target : ErrorTarget) :
    (Eval.modifyFrame (Engine.errorTargetFrame target)).Spares base environment fun _ => True := by
  refine .modifyFrame fun frame sparesFrame => ?_
  cases target with
  | resumeNext | disable => exact { sparesFrame with handler := nofun }
  | label name => exact { sparesFrame with handler := sparesFrame.labelled name }

theorem runStatement {statement : Statement} (spared : (Node.statement statement).Spares base) :
    (engine.runStatement statement).Spares base environment fun _ => True := by
  cases statement with
  | dim declarations =>
      exact .bind (spares.declare fun _ declared _ member => spared.part (.bound declared member))
        fun _ _ => .pure trivial
  | assign target value =>
      exact .bind (spares.operand value (spared.part .value)) fun _ apart =>
        .bind (spares.assign outside (spared.part .target) apart) fun _ _ => .pure trivial
  | call expression =>
      exact .bind (spares.runCall outside (spared.part .called)) fun _ _ => .pure trivial
  | branch arms otherwise =>
      exact spares.runBranch (spared.body fun _ => .otherwise) fun _ _ member =>
        ⟨spared.part (.condition member), spared.body fun _ => .guarded member⟩
  | forRange | forEach | whileLoop | doLoop => exact spares.runOfferedLoop outside spared
  | withBlock object body =>
      exact .bind (pushReceiver (spared.part .receiver)) fun _ _ =>
        .afterwards (spares.block _ (spared.body fun _ => .inWith)) fun _ => withoutReceiver
  | onError target =>
      exact .bind clearErrorInfo fun _ _ => .bind (errorTarget target) fun _ _ => .pure trivial
  | label name => exact .pure trivial
  | exit kind => exact .pure trivial
  | openFile path number =>
      exact .bind (spares.operand path (spared.part .path)) fun _ _ => .bind (text _) fun _ _ =>
        .bind (spares.operand number (spared.part .opened)) fun _ _ => .bind (text _) fun _ _ =>
        .bind (.modifyRun fun _ => rfl) fun _ _ => .pure trivial
  | writeFile number value =>
      exact .bind (spares.operand number (spared.part .extended)) fun _ _ =>
        .bind (text _) fun _ _ => .bind (spares.operand value (spared.part .written)) fun _ _ =>
        .bind (writeFile _ _) fun _ _ => .pure trivial
  | closeFiles numbers =>
      have sparedNumbers : ∀ number ∈ numbers, (Node.expr number).Spares base :=
        fun _ member => spared.part (.closed member)
      cases numbers with
      | nil => exact .bind closeAllFiles fun _ _ => .pure trivial
      | cons number rest =>
          exact .bind (spares.closeNumbered sparedNumbers) fun _ _ => .pure trivial

theorem runBlock {statements : List Statement} (spared : Statement.ListSpares base statements) :
    (engine.runBlock statements).Spares base environment fun _ => True := by
  induction statements with
  | nil => exact .pure trivial
  | cons statement rest induction =>
      have continued : (do
          if ← Eval.mustHandleError then return .continue
          engine.runBlock rest : Eval Flow).Spares base environment fun _ => True := by
        refine .bind mustHandleError fun _ _ => ?_
        split
        · exact .pure trivial
        · exact induction fun statement member => spared statement (.tail _ member)
      refine .bind tick fun _ _ =>
        .bind (.attempt (spares.runStatement outside (spared statement (.head _)))) fun _ _ => ?_
      split
      · exact continued
      · exact continued
      · exact .pure trivial
      · exact .bind (setError _) fun _ _ => continued

/-! ### Calls -/

omit outside in
theorem handleError : engine.handleError.Spares base environment fun _ => True := by
  refine .get_bind fun state sparesState => ?_
  dsimp only
  split
  · rename_i handler _ isHandler
    refine .bind (.modifyFrame fun frame sparesFrame => ?_) fun _ _ =>
      .bind (spares.block _ (sparesState.frame.handler _ ‹_›)) fun _ _ => .pure trivial
    exact { sparesFrame with handler := nofun }
  · exact .pure trivial

omit spares outside in
theorem bindParameters (parameters : List Parameter) {arguments : List Value}
    (apart : ∀ value ∈ arguments, base.IsApart value) :
    (Engine.bindParameters parameters arguments).Spares base environment fun _ => True := by
  induction parameters generalizing arguments with
  | nil => exact .pure trivial
  | cons parameter rest induction =>
      have first : base.IsApart (arguments.head?.getD .null) := by
        cases arguments with
        | nil => trivial
        | cons value rest => exact apart value (.head _)
      exact .bind (assignVariable _ _ _ first) fun _ _ =>
        induction fun value member => apart value (List.mem_of_mem_tail member)

omit spares in
theorem returnValue (procedure : Procedure) :
    (Engine.returnValue procedure).Spares base environment base.IsApart := by
  unfold Engine.returnValue
  split
  · exact variableOrNull outside _
  · exact .pure trivial

omit spares outside in
theorem setLabels {body : List Statement} (spared : Statement.ListSpares base body) :
    (Eval.modifyFrame fun frame => { frame with labelled := labelledBlocks body {} }).Spares base
      environment fun _ => True :=
  .modifyFrame fun _ sparesFrame =>
    { sparesFrame with labelled := Statement.listSpares_labelledBlocks spared nofun }

theorem runInFrame {procedure : Procedure} (spared : (Node.procedure procedure).Spares base)
    {arguments : List Value} (apart : ∀ value ∈ arguments, base.IsApart value) :
    (engine.runInFrame procedure arguments).Spares base environment fun answer =>
      base.IsApart answer.1 := by
  have sparedBody : Statement.ListSpares base procedure.body := spared.body fun _ => .ofBody
  have entered : (do
      Engine.bindParameters procedure.parameters arguments
      let _ ← engine.block procedure.body
      engine.handleError
      let pending ← Eval.mustHandleError
      let value ← Engine.returnValue procedure
      return (value, pending) : Eval (Value × Bool)).Spares base environment fun answer =>
        base.IsApart answer.1 :=
    .bind (bindParameters _ apart) fun _ _ => .bind (spares.block _ sparedBody) fun _ _ =>
      .bind spares.handleError fun _ _ => .bind mustHandleError fun _ _ =>
      .bind (returnValue outside _) fun _ isApart => .pure isApart
  refine .bind (setLabels sparedBody) fun _ _ => ?_
  split
  · exact .bind (assignVariable _ _ _ (Reserve.isApart_of_not_isReference (isReference_initial _)))
      fun _ _ => entered
  · exact entered

omit spares outside in
theorem enterFrame : Engine.enterFrame.Spares base environment fun _ => True := by
  intro state sparesState
  unfold Engine.enterFrame
  split
  · exact ⟨{ sparesState with frame := ⟨nofun, nofun, nofun, nofun⟩ }, trivial⟩
  · exact sparesState

theorem callProcedure {procedure : Procedure} (spared : (Node.procedure procedure).Spares base)
    {arguments : List Value} (apart : ∀ value ∈ arguments, base.IsApart value) :
    (engine.callProcedure procedure arguments).Spares base environment base.IsApart := by
  refine .get_bind fun caller sparesCaller => .bind enterFrame fun _ _ =>
    .bind (.afterwards (spares.runInFrame outside spared apart) fun state sparesState =>
      { sparesState with frame := sparesCaller.frame }) fun answer isApart => ?_
  dsimp only
  split
  · exact .bind raisePending fun _ _ => .pure isApart
  · exact .pure isApart

end

end Engine.Spares

/-! ## The interpreter -/

theorem Engine.spares_within {base : Reserve} {environment : Environment}
    (outside : environment.Spares base) (levels : Nat) :
    (Engine.within levels).Spares base environment := by
  induction levels with
  | zero => exact ⟨fun _ _ => .throw _, fun _ _ => .throw _, fun _ _ => .throw _, fun _ _ _ _ => .throw _⟩
  | succ levels induction =>
      exact ⟨fun _ => induction.nodeValue outside, fun _ => induction.operandValue outside,
        fun _ => induction.runBlock outside,
        fun _ spared _ => induction.callProcedure outside spared⟩

/-- Statements that do not refer to a reserve leave a state that does not refer to it. -/
theorem Eval.spares_block {base : Reserve} {environment : Environment} {state : State}
    {statements : List Statement} (outside : environment.Spares base) (spares : state.Spares base)
    (spared : Statement.ListSpares base statements) :
    ((Eval.block statements).after environment state).Spares base := by
  have ended := (Engine.spares_within outside Engine.maxNesting).runBlock outside spared state spares
  unfold Eval.after
  change EndsSparing base _ (Eval.block statements environment state) at ended
  cases ran : Eval.block statements environment state with
  | ok flow after =>
      rw [ran] at ended
      exact ended.1
  | error stop after =>
      rw [ran] at ended
      exact ended

end MacroSandbox
