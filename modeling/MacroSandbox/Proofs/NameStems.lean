import MacroSandbox.Proofs.Lookups
import MacroSandbox.Proofs.Variables

/-! Names without dots.

Such a name is no member's name, and nothing is derived from its value. It may still be read as
another name: where it is not bound, it is read again without the dollar signs at its end. Names with
different stems have nothing to do with each other. -/

namespace MacroSandbox

/-! ## Dots and dollar signs -/

def IsDotFree (name : String) : Prop :=
  '.' ∉ name.toList

instance (name : String) : Decidable (IsDotFree name) :=
  inferInstanceAs (Decidable ('.' ∉ name.toList))

/-- The characters of a name in lower case, without the dollar signs at its end. -/
def nameStem (name : String) : List Char :=
  (Text.asciiLower name).toList.rdropWhile (· == '$')

theorem nameStem_eq_of_asciiLower_eq {name other : String}
    (same : Text.asciiLower name = Text.asciiLower other) : nameStem name = nameStem other := by
  rw [nameStem, same, nameStem]

theorem nameStem_eq_of_dropEnd? {name rest : String} (dropped : Text.dropEnd? "$" name = some rest) :
    nameStem rest = nameStem name := by
  have whole := Text.toList_eq_of_dropEnd? dropped
  rw [nameStem, nameStem, Text.toList_asciiLower, Text.toList_asciiLower, whole, List.map_append]
  exact (List.rdropWhile_concat_pos _ _ _ (by decide)).symm

theorem IsPlainName.isDotFree {name : String} (plain : IsPlainName name) : IsDotFree name :=
  fun inside => absurd (plain '.' inside) (by decide)

namespace IsDotFree

variable {name : String}

theorem of_subset {other : String} (dotFree : IsDotFree name)
    (subset : other.toList ⊆ name.toList) : IsDotFree other :=
  fun inside => dotFree (subset inside)

theorem trim (dotFree : IsDotFree name) : IsDotFree (Text.trim name) := by
  apply dotFree.of_subset
  rw [Text.toList_trim]
  exact (Text.trimWhere_sublist _ _).subset

theorem dropEnd? {ending rest : String} (dotFree : IsDotFree name)
    (dropped : Text.dropEnd? ending name = some rest) : IsDotFree rest := by
  apply dotFree.of_subset
  rw [Text.toList_eq_of_dropEnd? dropped]
  exact List.subset_append_left _ _

theorem asciiLower (dotFree : IsDotFree name) : IsDotFree (Text.asciiLower name) := by
  intro inside
  rw [Text.toList_asciiLower] at inside
  obtain ⟨character, inName, lowered⟩ := List.mem_map.1 inside
  cases isUpper : character.isUpper with
  | false =>
      rw [Text.toLower_eq_self isUpper] at lowered
      exact dotFree (lowered ▸ inName)
  | true =>
      have inRange := Text.isUpper_iff_toNat.1 isUpper
      have position := Text.toNat_toLower_of_isUpper isUpper
      rw [lowered] at position
      have isDot : '.'.toNat = 46 := rfl
      omega

theorem startsWith_dot (dotFree : IsDotFree name) : Text.startsWith "." name = false := by
  rw [← Bool.not_eq_true, Text.startsWith_iff]
  exact fun starts => dotFree (starts.subset (by decide))

theorem dropEnd?_eq_none {ending : String} (dotFree : IsDotFree name)
    (hasDot : '.' ∈ ending.toList) : Text.dropEnd? ending name = none := by
  refine if_neg fun ends => ?_
  rw [Text.endsWith_iff] at ends
  exact dotFree (ends.subset hasDot)

end IsDotFree

/-! ## Reading -/

namespace Scope

variable {scope other : Scope} {name : String}

theorem qualified?_eq_none (dotFree : IsDotFree name) : scope.qualified? name = none :=
  qualified?_of_startsWith_dot dotFree.startsWith_dot

theorem get?_eq_of_value? (dotFree : IsDotFree name) {value : Value}
    (bound : scope.value? (Text.trim name) = some value) : scope.get? name = some value := by
  rw [get?, get_of_bound (qualified?_eq_none dotFree.trim) bound]
  rfl

/-- A lookup looks at no values but those of names with the stem of its name. -/
private theorem map_lookupWithin_congr_of_stem
    (agree : ∀ bound, nameStem bound = nameStem name → scope.value? bound = other.value? bound) :
    ∀ (steps : Nat) (tried : String), IsDotFree tried → nameStem tried = nameStem name →
      (scope.lookupWithin false steps tried).map (·.map Found.value) =
        (other.lookupWithin false steps tried).map (·.map Found.value)
  | 0, _, _, _ => rfl
  | steps + 1, tried, dotFree, sameStem => by
      have same := agree tried sameStem
      simp only [lookupWithin, qualified?_eq_none dotFree]
      simp only [value?] at same
      cases bound : scope.bound? false tried <;> cases otherBound : other.bound? false tried <;>
        rw [bound, otherBound] at same
      · dsimp only
        split
        · rename_i rest dropped
          exact map_lookupWithin_congr_of_stem agree steps rest (dotFree.dropEnd? dropped)
            ((nameStem_eq_of_dropEnd? dropped).trans sameStem)
        · rfl
      · cases same
      · cases same
      · simpa [Except.map] using same

theorem get?_congr_of_stem (dotFree : IsDotFree name)
    (agree : ∀ bound, nameStem bound = nameStem (Text.trim name) →
      scope.value? bound = other.value? bound) :
    scope.get? name = other.get? name :=
  get?_eq_of_lookupWithin (map_lookupWithin_congr_of_stem agree _ _ dotFree.trim rfl)

end Scope

/-! ## Writing -/

namespace State

variable {state : State} {environment : Environment} {name : String}

def withType (state : State) (type : Option DeclaredType) (name : String) : State :=
  match type with
  | some type => { state with frame.types := state.frame.types.insert name type }
  | none => state

theorem assign_eq_bind_of_isDotFree (dotFree : IsDotFree name) (placement : Placement)
    (type : Option DeclaredType) (value : Value) :
    let typed := state.withType type (Text.trim name)
    let coerced := state.heap.coerceTo (typed.frame.types.get? (Text.trim name)) value
    state.assign environment placement type name value =
      (typed.scanValue coerced).bind placement (Text.trim name) (.value coerced) := by
  have stored : state.storedName name = Text.trim name := by
    simp only [storedName, dotFree.trim.startsWith_dot]
    rfl
  have noText : Text.dropEnd? ".text" (Text.asciiLower (Text.trim name)) = none :=
    dotFree.trim.asciiLower.dropEnd?_eq_none (by decide)
  have noTypedValue :
      Text.dropEnd? ".nodetypedvalue" (Text.asciiLower (Text.trim name)) = none :=
    dotFree.trim.asciiLower.dropEnd?_eq_none (by decide)
  cases type <;> simp only [assign, withType, stored, convertNode, noText, noTypedValue]

theorem set_eq_bind_of_isDotFree (dotFree : IsDotFree name) (value : Value) :
    state.set environment name value =
      (state.scanValue (state.heap.coerceTo (state.frame.types.get? (Text.trim name)) value)).bind
        .automatic (Text.trim name)
        (.value (state.heap.coerceTo (state.frame.types.get? (Text.trim name)) value)) :=
  assign_eq_bind_of_isDotFree dotFree .automatic none value

theorem get?_set_self (dotFree : IsDotFree name) (value : Value) :
    ((state.set environment name value).scope environment).get? name =
      some (state.heap.coerceTo (state.frame.types.get? (Text.trim name)) value) := by
  apply Scope.get?_eq_of_value? dotFree
  rw [set_eq_bind_of_isDotFree dotFree, value?_bind, if_pos rfl]

theorem get?_set_of_stem_ne {other : String} (dotFree : IsDotFree name)
    (otherDotFree : IsDotFree other)
    (differs : nameStem (Text.trim name) ≠ nameStem (Text.trim other)) (value : Value) :
    ((state.set environment name value).scope environment).get? other =
      (state.scope environment).get? other := by
  apply Scope.get?_congr_of_stem otherDotFree
  intro bound sameStem
  rw [set_eq_bind_of_isDotFree dotFree, value?_bind, scope_scanValue, if_neg]
  intro same
  exact differs ((nameStem_eq_of_asciiLower_eq same).trans sameStem)

end State

end MacroSandbox
