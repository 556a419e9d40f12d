import MacroSandbox.Proofs.Lookups
import MacroSandbox.Proofs.Variables

/-! What an assignment changes, whatever the name.

A value is stored under the full name of its variable, and every spelling of the name that was written
reads it back. Besides that name at most one other changes: a document node has a text and a typed
value, and writing one of the two may write the other. -/

namespace MacroSandbox

/-! ## Spellings -/

namespace Text

variable {name other : String}

theorem startsWith_dot_eq_of_asciiLower_eq (same : asciiLower name = asciiLower other) :
    startsWith "." name = startsWith "." other := by
  have lowered (text : String) : startsWith "." (asciiLower text) = startsWith "." text := by
    rw [Bool.eq_iff_iff, startsWith_iff, startsWith_iff, toList_asciiLower]
    cases text.toList with
    | nil => simp
    | cons first rest =>
        have isDot : ".".toList = ['.'] := rfl
        have notLetter : first.toLower = '.' ↔ first = '.' := by
          cases isUpper : first.isUpper with
          | false => rw [toLower_eq_self isUpper]
          | true =>
              have inRange := isUpper_iff_toNat.1 isUpper
              have moved := toNat_toLower_of_isUpper isUpper
              have position : '.'.toNat = 46 := rfl
              constructor
              · intro lower
                rw [lower] at moved
                omega
              · rintro rfl
                omega
        simp [isDot, eq_comm (a := '.'), notLetter]
  rw [← lowered name, same, lowered]

theorem startsWith_dot_append (notEmpty : name ≠ "") (noDot : startsWith "." name = false) :
    startsWith "." (name ++ other) = false := by
  rw [← Bool.not_eq_true, startsWith_iff] at noDot ⊢
  rw [String.toList_append]
  cases characters : name.toList with
  | nil => exact absurd (String.toList_eq_nil_iff.1 characters) notEmpty
  | cons first rest =>
      rw [characters] at noDot
      simpa using noDot

end Text

/-! ## Reading -/

namespace Scope

variable {scope other : Scope} {name full : String} {value : Value}

theorem get_of_member (isMember : scope.qualified? (Text.trim name) = some full)
    (noMember : scope.qualified? full = none) (bound : scope.value? full = some value) :
    scope.get name = .ok value := by
  obtain ⟨left, enough⟩ : ∃ left, steps (Text.trim name) = left + 2 :=
    ⟨steps (Text.trim name) - 2, by unfold steps; omega⟩
  obtain ⟨found, isFound, rfl⟩ := Option.map_eq_some_iff.1 bound
  simp only [get, lookup, enough, lookupWithin, isMember, noMember, isFound]
  rfl

/-- What a name without a dot in front and a dollar sign behind means hangs on nothing but the value
that is bound to it. -/
theorem get_congr (noDot : Text.startsWith "." (Text.trim name) = false)
    (noDollar : Text.endsWith "$" (Text.trim name) = false)
    (same : scope.value? (Text.trim name) = other.value? (Text.trim name)) :
    scope.get name = other.get name := by
  have noMember (scope : Scope) : scope.qualified? (Text.trim name) = none :=
    qualified?_of_startsWith_dot noDot
  have notStripped : Text.dropEnd? "$" (Text.trim name) = none := by
    rw [Text.dropEnd?, noDollar]
    rfl
  obtain ⟨left, enough⟩ : ∃ left, steps (Text.trim name) = left + 1 := ⟨_, Nat.succ_add _ _⟩
  simp only [value?] at same
  simp only [get, lookup, enough, lookupWithin, noMember, notStripped]
  cases bound : scope.bound? false (Text.trim name) <;>
    cases otherBound : other.bound? false (Text.trim name) <;> rw [bound, otherBound] at same
  · cases same
  · cases same
  · simpa [Except.map] using same

end Scope

/-! ## Writing -/

/-- The other property of a document node: the typed value beside the text, and the text beside the
typed value. -/
def siblingName? (name : String) : Option String :=
  match Text.dropEnd? ".text" (Text.asciiLower name) with
  | some node => some (node ++ ".nodetypedvalue")
  | none =>
      (Text.dropEnd? ".nodetypedvalue" (Text.asciiLower name)).map fun node => node ++ ".text"

structure IsUnrelated (stored other : String) : Prop where
  name_ne : Text.asciiLower stored ≠ Text.asciiLower other
  sibling_ne : ∀ sibling, siblingName? stored = some sibling →
    Text.asciiLower sibling ≠ Text.asciiLower other

namespace State

variable {state : State} {environment : Environment} {name other : String}

theorem convertNode_cases (environment : Environment) (state : State) (placement : Placement)
    (name : String) (value : Value) :
    state.convertNode environment placement name value = state ∨
      ∃ sibling content, siblingName? name = some sibling ∧
        state.convertNode environment placement name value =
          state.bind placement sibling (.value content) := by
  cases isText : Text.dropEnd? ".text" (Text.asciiLower name) with
  | some node =>
      simp only [convertNode, siblingName?, isText]
      split
      · exact .inl rfl
      · split
        · exact .inr ⟨_, _, rfl, rfl⟩
        · exact .inl rfl
  | none =>
      cases isTypedValue : Text.dropEnd? ".nodetypedvalue" (Text.asciiLower name) with
      | some node =>
          simp only [convertNode, siblingName?, isText, isTypedValue]
          exact .inr ⟨_, _, rfl, rfl⟩
      | none =>
          simp only [convertNode, isText, isTypedValue]
          exact .inl trivial

theorem set_cases (environment : Environment) (state : State) (name : String) (value : Value) :
    let stored := state.storedName name
    let held := state.heap.coerceTo (state.frame.types.get? stored) value
    state.set environment name value =
        (state.scanValue held).bind .automatic stored (.value held) ∨
      ∃ sibling content, siblingName? stored = some sibling ∧
        state.set environment name value =
          ((state.scanValue held).bind .automatic sibling (.value content)).bind .automatic stored
            (.value held) := by
  intro stored held
  have assigned : state.set environment name value =
      ((state.scanValue held).convertNode environment .automatic stored held).bind .automatic stored
        (.value held) := rfl
  rcases convertNode_cases environment (state.scanValue held) .automatic stored held with
    kept | ⟨sibling, content, isSibling, written⟩
  · exact .inl (by rw [assigned, kept])
  · exact .inr ⟨sibling, content, isSibling, by rw [assigned, written]⟩

theorem value?_set_self (value : Value)
    (same : Text.asciiLower (state.storedName name) = Text.asciiLower other) :
    ((state.set environment name value).scope environment).value? other =
      some (state.heap.coerceTo (state.frame.types.get? (state.storedName name)) value) := by
  rcases set_cases environment state name value with result | ⟨sibling, content, _, result⟩ <;>
    rw [result, value?_bind, if_pos same]

theorem value?_set_of_isUnrelated (value : Value)
    (unrelated : IsUnrelated (state.storedName name) other) :
    ((state.set environment name value).scope environment).value? other =
      (state.scope environment).value? other := by
  rcases set_cases environment state name value with result | ⟨sibling, content, isSibling, result⟩
  · rw [result, value?_bind, if_neg unrelated.name_ne, scope_scanValue]
  · rw [result, value?_bind, if_neg unrelated.name_ne, value?_bind,
      if_neg (unrelated.sibling_ne sibling isSibling), scope_scanValue]

theorem get?_globals_bind (placement : Placement) (binding : Binding)
    (differs : Text.asciiLower name ≠ Text.asciiLower other) :
    (state.bind placement name binding).run.globals.get? other = state.run.globals.get? other := by
  unfold bind
  split
  · rw [NameMap.get?_insert, if_neg differs]
  · rfl

@[simp] theorem globals_scanValue (value : Value) :
    (state.scanValue value).run.globals = state.run.globals := by
  cases value <;> rfl

theorem get?_globals_set_of_isUnrelated (value : Value)
    (unrelated : IsUnrelated (state.storedName name) other) :
    (state.set environment name value).run.globals.get? other =
      state.run.globals.get? other := by
  rcases set_cases environment state name value with result | ⟨sibling, content, isSibling, result⟩
  · rw [result, get?_globals_bind _ _ unrelated.name_ne, globals_scanValue]
  · rw [result, get?_globals_bind _ _ unrelated.name_ne,
      get?_globals_bind _ _ (unrelated.sibling_ne sibling isSibling), globals_scanValue]

@[simp] theorem receiver_bind (placement : Placement) (name : String) (binding : Binding) :
    ((state.bind placement name binding).scope environment).receiver =
      (state.scope environment).receiver := by
  unfold bind
  split <;> rfl

@[simp] theorem receiver_set (value : Value) :
    ((state.set environment name value).scope environment).receiver =
      (state.scope environment).receiver := by
  rcases set_cases environment state name value with result | ⟨sibling, content, _, result⟩ <;>
    simp [result]

/-! ## Reading what was written -/

theorem get_set_self
    (named : ∀ receiver ∈ state.frame.receivers,
      receiver.name ≠ "" ∧ Text.startsWith "." receiver.name = false)
    (value : Value)
    (same : Text.asciiLower (Text.trim other) = Text.asciiLower (Text.trim name)) :
    ((state.set environment name value).scope environment).get other =
      .ok (state.heap.coerceTo (state.frame.types.get? (state.storedName name)) value) := by
  have startsAlike := Text.startsWith_dot_eq_of_asciiLower_eq same
  have receiver : ((state.set environment name value).scope environment).receiver =
      state.frame.receiverName? := receiver_set value
  cases starts : Text.startsWith "." (Text.trim other) with
  | false =>
      have stored : state.storedName name = Text.trim name := by
        rw [storedName, ← startsAlike, starts]
        rfl
      apply Scope.get_of_bound (Scope.qualified?_of_startsWith_dot starts)
      exact value?_set_self value (by rw [stored, same])
  | true =>
      have memberStarts : Text.startsWith "." (Text.trim name) = true := startsAlike ▸ starts
      -- The name of a member: outside of every block it is an ordinary name that starts with a dot.
      cases inside : state.frame.receiverName? with
      | none =>
          have stored : state.storedName name = Text.trim name := by
            rw [storedName, if_pos memberStarts, inside]
          have noMember : ((state.set environment name value).scope environment).qualified?
              (Text.trim other) = none := by
            rw [Scope.qualified?, if_pos starts, receiver, inside]
            rfl
          exact Scope.get_of_bound noMember (value?_set_self value (by rw [stored, same]))
      | some object =>
          have stored : state.storedName name = object ++ Text.trim name := by
            rw [storedName, if_pos memberStarts, inside]
          have isMember : ((state.set environment name value).scope environment).qualified?
              (Text.trim other) = some (object ++ Text.trim other) := by
            rw [Scope.qualified?, if_pos starts, receiver, inside]
            rfl
          -- The full name starts with that of the object, so it is not taken for a member again.
          have isNamed : object ≠ "" ∧ Text.startsWith "." object = false := by
            obtain ⟨receiver, first, rfl⟩ := Option.map_eq_some_iff.1 inside
            exact named receiver (List.mem_of_head? first)
          apply Scope.get_of_member isMember
            (Scope.qualified?_of_startsWith_dot (Text.startsWith_dot_append isNamed.1 isNamed.2))
          exact value?_set_self value
            (by rw [stored, Text.asciiLower_append, Text.asciiLower_append, same])

/-- Under all its spellings a name has the value that was assigned to it, coerced to the type that is
known for its full name. Of the other names, those without a dot in front and a dollar sign behind keep
what they mean, and the module keeps its procedures, but for the full name and its sibling. -/
theorem get_set
    (named : ∀ receiver ∈ state.frame.receivers,
      receiver.name ≠ "" ∧ Text.startsWith "." receiver.name = false)
    (environment : Environment) (name : String) (value : Value) :
    (∀ other, Text.asciiLower (Text.trim other) = Text.asciiLower (Text.trim name) →
      ((state.set environment name value).scope environment).get other =
        .ok (state.heap.coerceTo (state.frame.types.get? (state.storedName name)) value)) ∧
    (∀ other, Text.startsWith "." (Text.trim other) = false →
      Text.endsWith "$" (Text.trim other) = false →
      IsUnrelated (state.storedName name) (Text.trim other) →
      ((state.set environment name value).scope environment).get other =
        (state.scope environment).get other) ∧
    ∀ other procedure, IsUnrelated (state.storedName name) other →
      ((state.set environment name value).run.globals.get? other = some (.procedure procedure) ↔
        state.run.globals.get? other = some (.procedure procedure)) := by
  refine ⟨fun other same => get_set_self named value same, fun other noDot noDollar unrelated => ?_,
    fun other procedure unrelated => by rw [get?_globals_set_of_isUnrelated value unrelated]⟩
  exact Scope.get_congr noDot noDollar (value?_set_of_isUnrelated value unrelated)

/-- Inside of a block on `Node`, a member that is written with a capital and a blank is the one that
was assigned to. Its full name is declared as text, so the number has become text. -/
theorem get_set_inside_block :
    let frame : Frame :=
      { receivers := [{ object := .var "Node", name := "Node" }]
        types := NameMap.empty.insert "node.text" .string }
    let main : Procedure := { name := "Main", kind := .sub, body := [] }
    let state := { State.start {} none {} {} with frame }.setProcedure main
    let later := state.set {} ".text" (.integer 5)
    (∀ receiver ∈ state.frame.receivers,
      receiver.name ≠ "" ∧ Text.startsWith "." receiver.name = false) ∧
    (later.scope {}).get " .Text" = .ok (.text "5") ∧
    (later.scope {}).get "node.value" = (state.scope {}).get "node.value" ∧
    later.run.globals.get? "main" = some (.procedure main) := by
  intro frame main state later
  have named : ∀ receiver ∈ state.frame.receivers,
      receiver.name ≠ "" ∧ Text.startsWith "." receiver.name = false := by
    decide +kernel
  obtain ⟨self, others, procedures⟩ := get_set named {} ".text" (.integer 5)
  have stored : state.storedName ".text" = "Node.text" := by decide +kernel
  have isText : state.frame.types.get? (state.storedName ".text") = some .string := by
    decide +kernel
  have isSibling : siblingName? "Node.text" = some "node.nodetypedvalue" := by decide +kernel
  have unrelated {other : String} (name_ne : Text.asciiLower "Node.text" ≠ Text.asciiLower other)
      (sibling_ne : Text.asciiLower "node.nodetypedvalue" ≠ Text.asciiLower other) :
      IsUnrelated (state.storedName ".text") other := by
    rw [stored]
    exact ⟨name_ne, by simpa [isSibling] using sibling_ne⟩
  refine ⟨named, ?_, ?_, ?_⟩
  · rw [self " .Text" (by decide +kernel), isText]
    rfl
  · exact others "node.value" (by decide +kernel) (by decide +kernel)
      (unrelated (by decide +kernel) (by decide +kernel))
  · rw [procedures "main" main (unrelated (by decide +kernel) (by decide +kernel))]
    exact (NameMap.get?_insert {} "Main" "main" _).trans (if_pos (by decide +kernel))

end State

end MacroSandbox
