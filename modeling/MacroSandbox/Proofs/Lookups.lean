import MacroSandbox.Evaluation.Monad

/-! Which lookups of names end.

The name of a member is looked up under its full name first. Under an object whose text is empty or
starts with a dot, the full name is the name of a member again, and the lookup never ends. Every other
lookup ends within one step more than its name has characters. -/

namespace MacroSandbox

theorem Text.toList_eq_of_dropEnd? {ending text rest : String}
    (dropped : Text.dropEnd? ending text = some rest) :
    text.toList = rest.toList ++ ending.toList := by
  unfold Text.dropEnd? at dropped
  split at dropped
  · rename_i ends
    rcases Text.endsWith_iff.1 ends with ⟨start, whole⟩
    injection dropped with same
    rw [← same, String.toList_copy_dropEnd, ← whole, List.length_append, String.length_toList]
    simp
  · cases dropped

namespace Scope

variable {scope : Scope} {globalsOnly : Bool} {name stripped : String}

def Ends (scope : Scope) (globalsOnly : Bool) (name : String) (steps : Nat) : Prop :=
  ∃ outcome, scope.lookupWithin globalsOnly steps name = some outcome

/-- The full name of a member is the name of a member again. -/
def IsEndless (scope : Scope) (name : String) : Prop :=
  Text.startsWith "." name = true ∧
    ∃ object, scope.receiver = some object ∧ (object = "" ∨ Text.startsWith "." object = true)

/-! ## Lookups that end -/

theorem ends_succ {steps : Nat}
    (qualified : ∀ full, scope.qualified? name = some full → scope.Ends globalsOnly full steps)
    (withoutDollar : ∀ rest, Text.dropEnd? "$" name = some rest →
      scope.Ends globalsOnly rest steps) :
    scope.Ends globalsOnly name (steps + 1) := by
  unfold Ends lookupWithin
  dsimp only
  split
  · rename_i endless
    split at endless
    · rename_i full isMember
      rcases qualified full isMember with ⟨outcome, ends⟩
      cases endless.symm.trans ends
    · cases endless
  · exact ⟨_, rfl⟩
  · split
    · exact ⟨_, rfl⟩
    · split
      · rename_i rest dropped
        exact withoutDollar rest dropped
      · exact ⟨_, rfl⟩

/-- A name that is no member's does not become one when its end is cut off. -/
theorem qualified?_eq_none_of_prefix (noMember : scope.qualified? name = none)
    (isPrefix : stripped.toList <+: name.toList) : scope.qualified? stripped = none := by
  unfold qualified? at noMember ⊢
  split
  · rename_i starts
    have nameStarts : Text.startsWith "." name = true :=
      Text.startsWith_iff.2 ((Text.startsWith_iff.1 starts).trans isPrefix)
    rw [if_pos nameStarts, Option.map_eq_none_iff] at noMember
    rw [noMember]
    rfl
  · rfl

/-- A name that is no member's is tried again at most once for each character at its end that may be
a dollar sign. -/
theorem ends_of_qualified?_eq_none {base ending : List Char} {steps : Nat}
    (whole : name.toList = base ++ ending) (noDollar : base.getLast? ≠ some '$')
    (noMember : scope.qualified? name = none) (enough : ending.length < steps) :
    scope.Ends globalsOnly name steps := by
  induction steps generalizing name ending with
  | zero => exact absurd enough (Nat.not_lt_zero _)
  | succ steps induction =>
      apply ends_succ
      · intro full isMember
        rw [noMember] at isMember
        cases isMember
      · intro rest dropped
        have cut := Text.toList_eq_of_dropEnd? dropped
        rcases List.eq_nil_or_concat ending with rfl | ⟨shorter, last, rfl⟩
        · rw [cut, List.append_nil] at whole
          exact absurd (by rw [← whole]; simp) noDollar
        · rw [cut, List.concat_eq_append, ← List.append_assoc] at whole
          have shorterWhole : rest.toList = base ++ shorter := (List.append_inj' whole rfl).1
          apply induction shorterWhole
          · exact qualified?_eq_none_of_prefix noMember ⟨_, cut.symm⟩
          · simpa using enough

theorem ends_of_member {ending : List Char} {steps : Nat} {object : String}
    (whole : name.toList = '.' :: ending) (inside : scope.receiver = some object)
    (notEmpty : object ≠ "") (noDot : Text.startsWith "." object = false)
    (enough : ending.length + 1 < steps) : scope.Ends globalsOnly name steps := by
  induction steps generalizing name ending with
  | zero => exact absurd enough (Nat.not_lt_zero _)
  | succ steps induction =>
      apply ends_succ
      · intro full isMember
        have starts : Text.startsWith "." name = true :=
          Text.startsWith_iff.2 ⟨ending, whole.symm⟩
        rw [qualified?, if_pos starts, inside] at isMember
        injection isMember with same
        have fullWhole : full.toList = (object.toList ++ ['.']) ++ ending := by
          rw [← same, String.toList_append, whole, List.append_assoc]
          rfl
        apply ends_of_qualified?_eq_none fullWhole (by simp) _ (Nat.lt_of_succ_lt_succ enough)
        -- The full name starts as the text of the object does.
        refine if_neg fun fullStarts => ?_
        rw [← Bool.not_eq_true, Text.startsWith_iff] at noDot
        rw [Text.startsWith_iff, fullWhole, List.append_assoc] at fullStarts
        cases characters : object.toList with
        | nil => exact notEmpty (String.toList_eq_nil_iff.1 characters)
        | cons first rest =>
            rw [characters] at fullStarts noDot
            exact noDot (by simpa using fullStarts)
      · intro rest dropped
        have cut := Text.toList_eq_of_dropEnd? dropped
        rcases List.eq_nil_or_concat ending with rfl | ⟨shorter, last, rfl⟩
        · rw [cut] at whole
          have sameLast := congrArg List.getLast? whole
          simp at sameLast
        · rw [cut, List.concat_eq_append, ← List.cons_append] at whole
          apply induction (List.append_inj' whole rfl).1
          simpa using enough

theorem ends_of_not_isEndless (notEndless : ¬scope.IsEndless name) {steps : Nat}
    (enough : name.length < steps) : scope.Ends globalsOnly name steps := by
  rw [← String.length_toList] at enough
  have direct (noMember : scope.qualified? name = none) : scope.Ends globalsOnly name steps :=
    ends_of_qualified?_eq_none (List.nil_append _).symm (by simp) noMember enough
  cases starts : Text.startsWith "." name with
  | false =>
      apply direct
      rw [qualified?, starts]
      rfl
  | true =>
      cases inside : scope.receiver with
      | none =>
          apply direct
          rw [qualified?, inside, starts]
          rfl
      | some object =>
          rcases Text.startsWith_iff.1 starts with ⟨ending, whole⟩
          have hasName : object ≠ "" ∧ Text.startsWith "." object = false := by
            simpa [IsEndless, starts, inside] using notEndless
          exact ends_of_member whole.symm inside hasName.1 hasName.2 (by simpa [← whole] using enough)

/-! ## Lookups that do not end -/

theorem isEndless_qualified (endless : scope.IsEndless name) :
    ∃ full, scope.qualified? name = some full ∧ scope.IsEndless full := by
  rcases endless with ⟨starts, object, inside, unnamed⟩
  refine ⟨object ++ name, ?_, ?_, object, inside, unnamed⟩
  · rw [qualified?, if_pos starts, inside]
    rfl
  · rcases unnamed with rfl | objectStarts
    · rwa [String.empty_append]
    · rw [Text.startsWith_iff] at objectStarts ⊢
      rw [String.toList_append]
      exact objectStarts.trans (List.prefix_append _ _)

theorem not_ends_of_isEndless (endless : scope.IsEndless name) (steps : Nat) :
    ¬scope.Ends globalsOnly name steps := by
  induction steps generalizing name with
  | zero =>
      rintro ⟨outcome, ends⟩
      cases ends
  | succ steps induction =>
      rcases isEndless_qualified endless with ⟨full, isMember, fullEndless⟩
      rintro ⟨outcome, ends⟩
      rw [lookupWithin, isMember] at ends
      cases further : scope.lookupWithin globalsOnly steps full with
      | some found => exact induction fullEndless ⟨found, further⟩
      | none => simp [further] at ends

/-- A lookup ends, and then soon, unless the name is that of a member under an object whose text is
empty or starts with a dot. -/
theorem lookup_ends_iff (scope : Scope) (globalsOnly : Bool) (name : String) :
    ((∃ steps, scope.Ends globalsOnly name steps) ↔ ¬scope.IsEndless name) ∧
      ((∃ steps, scope.Ends globalsOnly name steps) →
        ∀ steps > name.length, scope.Ends globalsOnly name steps) := by
  have notEndless : (∃ steps, scope.Ends globalsOnly name steps) → ¬scope.IsEndless name := by
    rintro ⟨steps, ends⟩ endless
    exact not_ends_of_isEndless endless steps ends
  refine ⟨⟨notEndless, ?_⟩, ?_⟩
  · intro isFine
    exact ⟨_, ends_of_not_isEndless isFine (Nat.lt_succ_self _)⟩
  · intro ends steps enough
    exact ends_of_not_isEndless (notEndless ends) enough

end Scope

/-- Inside of a block whose object is written without a text, no lookup of a member ends. -/
theorem Eval.pushReceiver_endless_lookup :
    ∃ state, Eval.pushReceiver .receiver {} (State.start {} none {} {}) = .ok () state ∧
      ∀ steps, (state.scope {}).lookupWithin false steps ".x" = none := by
  refine ⟨_, rfl, fun steps => ?_⟩
  rw [Option.eq_none_iff_forall_ne_some]
  intro outcome ends
  exact Scope.not_ends_of_isEndless ⟨by decide +kernel, "", rfl, .inl rfl⟩ steps ⟨outcome, ends⟩

end MacroSandbox
