import Mathlib
import MacroSandbox.Scope

/-! What an assignment does to the values of names.

Most names are plain: they have no blank, no dot and no dollar sign, so nothing is cut off, completed
or derived when they are read and written. -/

namespace MacroSandbox

/-! ## Plain names -/

namespace Text

theorem isUpper_iff_toNat {character : Char} :
    character.isUpper = true ↔ 65 ≤ character.toNat ∧ character.toNat ≤ 90 := by
  simp [Char.isUpper, UInt32.le_iff_toNat_le, ← Char.toNat_val]

theorem toNat_toLower_of_isUpper {character : Char} (isUpper : character.isUpper = true) :
    character.toLower.toNat = character.toNat + 32 := by
  have inRange := isUpper_iff_toNat.1 isUpper
  rw [← Char.toNat_val] at inRange
  rw [Char.toLower, dif_pos (of_decide_eq_true isUpper), ← Char.toNat_val, ← Char.toNat_val]
  simp only [UInt32.toNat_add, Char.reduceVal, UInt32.reduceSub, UInt32.reduceToNat]
  omega

theorem isUpper_toLower (character : Char) : character.toLower.isUpper = false := by
  cases isUpper : character.isUpper with
  | false => rw [toLower_eq_self isUpper, isUpper]
  | true =>
      have inRange := isUpper_iff_toNat.1 isUpper
      rw [← Bool.not_eq_true, isUpper_iff_toNat, toNat_toLower_of_isUpper isUpper]
      omega

theorem toLower_toLower (character : Char) : character.toLower.toLower = character.toLower :=
  toLower_eq_self (isUpper_toLower character)

@[simp] theorem asciiLower_asciiLower (text : String) :
    asciiLower (asciiLower text) = asciiLower text := by
  rw [← String.toList_inj, toList_asciiLower, toList_asciiLower, List.map_map]
  exact List.map_congr_left fun character _ => toLower_toLower character

theorem isBlank_toLower (character : Char) :
    isBlank character.toLower = isBlank character := by
  cases isUpper : character.isUpper with
  | false => rw [toLower_eq_self isUpper]
  | true =>
      have inRange := isUpper_iff_toNat.1 isUpper
      have lowered := toNat_toLower_of_isUpper isUpper
      have notBlank {other : Char} (letter : 65 ≤ other.toNat ∧ other.toNat ≤ 122) :
          isBlank other = false := by
        simp only [isBlank, Bool.or_eq_false_iff, Bool.and_eq_false_iff, decide_eq_false_iff_not,
          beq_eq_false_iff_ne]
        omega
      rw [notBlank (by omega), notBlank (by omega)]

theorem trim_asciiLower (text : String) : trim (asciiLower text) = asciiLower (trim text) := by
  have blank : isBlank ∘ Char.toLower = isBlank := funext isBlank_toLower
  rw [← String.toList_inj, toList_trim, toList_asciiLower, toList_asciiLower, toList_trim]
  simp only [trimWhere, List.dropWhile_map, blank, ← List.map_reverse]

end Text

/-- A character that no plain name has: names are cut off at blanks, completed at dots, and tried
again without a dollar sign. -/
def isNameMark (character : Char) : Bool :=
  Text.isBlank character || character == '.' || character == '$'

def IsPlainName (name : String) : Prop :=
  ∀ character ∈ name.toList, isNameMark character = false

instance (name : String) : Decidable (IsPlainName name) :=
  decidable_of_iff (name.toList.all (!isNameMark ·) = true) (by simp [IsPlainName])

theorem isNameMark_toLower {character : Char} (noMark : isNameMark character = false) :
    isNameMark character.toLower = false := by
  cases isUpper : character.isUpper with
  | false => rwa [Text.toLower_eq_self isUpper]
  | true =>
      have inRange := Text.isUpper_iff_toNat.1 isUpper
      have lowered := Text.toNat_toLower_of_isUpper isUpper
      have differs {mark : Char} (below : mark.toNat < 65) : character.toLower ≠ mark := by
        intro same
        rw [same] at lowered
        omega
      simp only [isNameMark, Text.isBlank, Bool.or_eq_false_iff, Bool.and_eq_false_iff,
        decide_eq_false_iff_not, beq_eq_false_iff_ne, lowered]
      refine ⟨⟨by omega, differs (by decide)⟩, differs (by decide)⟩

namespace IsPlainName

variable {name : String}

theorem asciiLower (plain : IsPlainName name) : IsPlainName (Text.asciiLower name) := by
  intro character member
  rw [Text.toList_asciiLower] at member
  obtain ⟨original, inName, rfl⟩ := List.mem_map.1 member
  exact isNameMark_toLower (plain original inName)

theorem of_asciiLower (plain : IsPlainName (Text.asciiLower name)) : IsPlainName name := by
  intro character inName
  have noMark := plain character.toLower
    (by rw [Text.toList_asciiLower]; exact List.mem_map_of_mem inName)
  cases isUpper : character.isUpper with
  | false => rwa [Text.toLower_eq_self isUpper] at noMark
  | true =>
      -- No capital is a mark.
      have inRange := Text.isUpper_iff_toNat.1 isUpper
      have differs {mark : Char} (below : mark.toNat < 65) : character ≠ mark := by
        rintro rfl
        omega
      simp only [isNameMark, Text.isBlank, Bool.or_eq_false_iff, Bool.and_eq_false_iff,
        decide_eq_false_iff_not, beq_eq_false_iff_ne]
      refine ⟨⟨by omega, differs (by decide)⟩, differs (by decide)⟩

theorem trim_eq (plain : IsPlainName name) : Text.trim name = name := by
  refine Text.trim_eq_self fun character member => ?_
  have noMark := plain character member
  simp only [isNameMark, Bool.or_eq_false_iff] at noMark
  exact noMark.1.1

theorem startsWith_dot (plain : IsPlainName name) : Text.startsWith "." name = false := by
  rw [← Bool.not_eq_true, Text.startsWith_iff]
  intro starts
  have noMark := plain '.' (starts.subset (by decide))
  exact absurd noMark (by decide)

theorem dropEnd?_eq (plain : IsPlainName name) {ending : String} {mark : Char}
    (isMark : isNameMark mark = true) (inEnding : mark ∈ ending.toList) :
    Text.dropEnd? ending name = none := by
  refine if_neg fun ends => ?_
  rw [Text.endsWith_iff] at ends
  rw [plain mark (ends.subset inEnding)] at isMark
  cases isMark

end IsPlainName

/-! ## Values of names -/

def Scope.value? (scope : Scope) (name : String) : Option Value :=
  (scope.bound? false name).map Found.value

@[simp] theorem NameMap.get?_asciiLower {α : Type} (names : NameMap α) (name : String) :
    names.get? (Text.asciiLower name) = names.get? name := by
  simp [get?]

namespace Scope

variable {scope other : Scope}

@[simp] theorem value?_asciiLower (name : String) :
    scope.value? (Text.asciiLower name) = scope.value? name := by
  simp [value?, bound?, Constants.get?]

theorem qualified?_of_startsWith_dot {name : String} (noDot : Text.startsWith "." name = false) :
    scope.qualified? name = none := by
  rw [qualified?, noDot]
  rfl

theorem get_of_bound {name : String} {value : Value}
    (noMember : scope.qualified? (Text.trim name) = none)
    (bound : scope.value? (Text.trim name) = some value) : scope.get name = .ok value := by
  obtain ⟨left, enough⟩ : ∃ left, steps (Text.trim name) = left + 1 := ⟨_, Nat.succ_add _ _⟩
  obtain ⟨found, isFound, rfl⟩ := Option.map_eq_some_iff.1 bound
  simp only [get, lookup, enough, lookupWithin, noMember, isFound]
  rfl

theorem get?_eq_value? {name : String} (plain : IsPlainName name) :
    scope.get? name = scope.value? name := by
  have noMember : scope.qualified? name = none :=
    qualified?_of_startsWith_dot plain.startsWith_dot
  have noDollar : Text.dropEnd? "$" name = none :=
    plain.dropEnd?_eq (by decide : isNameMark '$' = true) (by decide)
  obtain ⟨steps, enough⟩ : ∃ left, steps name = left + 1 := ⟨_, Nat.succ_add _ _⟩
  simp only [get?, get, lookup, plain.trim_eq, enough, lookupWithin, noMember, noDollar, value?]
  cases scope.bound? false name <;> rfl

private theorem map_lookupWithin_congr (outside : scope.receiver = none)
    (otherOutside : other.receiver = none) (agree : ∀ name, scope.value? name = other.value? name) :
    ∀ (steps : Nat) (name : String),
      (scope.lookupWithin false steps name).map (·.map Found.value) =
        (other.lookupWithin false steps name).map (·.map Found.value)
  | 0, _ => rfl
  | steps + 1, name => by
      have noMember : scope.qualified? name = none := by simp [qualified?, outside]
      have otherNoMember : other.qualified? name = none := by simp [qualified?, otherOutside]
      have same := agree name
      simp only [lookupWithin, noMember, otherNoMember]
      simp only [value?] at same
      cases bound : scope.bound? false name <;> cases otherBound : other.bound? false name <;>
        rw [bound, otherBound] at same
      · dsimp only
        split
        · exact map_lookupWithin_congr outside otherOutside agree steps _
        · rfl
      · cases same
      · cases same
      · simpa [Except.map] using same

theorem get?_eq_of_lookupWithin
    (same : (scope.lookupWithin false (steps (Text.trim name)) (Text.trim name)).map
        (·.map Found.value) =
      (other.lookupWithin false (steps (Text.trim name)) (Text.trim name)).map
        (·.map Found.value)) :
    scope.get? name = other.get? name := by
  simp only [get?, get, lookup]
  generalize scope.lookupWithin false (steps (Text.trim name)) (Text.trim name) = found at same
  generalize other.lookupWithin false (steps (Text.trim name)) (Text.trim name) = otherFound at same
  cases found <;> cases otherFound
  · rfl
  · cases same
  · cases same
  · simp only [Option.map_some, Option.some.injEq] at same
    simp only [Option.getD_some, same]

theorem get?_congr (outside : scope.receiver = none) (otherOutside : other.receiver = none)
    (agree : ∀ name, scope.value? name = other.value? name) (name : String) :
    scope.get? name = other.get? name :=
  get?_eq_of_lookupWithin (map_lookupWithin_congr outside otherOutside agree _ _)

end Scope

/-! ## Assignments -/

namespace State

variable {state : State} {environment : Environment}

theorem value?_bind (name other : String) (value : Value) :
    ((state.bind .automatic name (.value value)).scope environment).value? other =
      if Text.asciiLower name = Text.asciiLower other then some value
      else (state.scope environment).value? other := by
  have inLocals : ({ state with
        frame.locals := state.frame.locals.insert name (.value value) }.scope environment).value?
          other =
      if Text.asciiLower name = Text.asciiLower other then some value
      else (state.scope environment).value? other := by
    simp only [scope, Scope.value?, Scope.bound?, NameMap.get?_insert]
    by_cases same : Text.asciiLower name = Text.asciiLower other
    · simp [same, Binding.value?]
    · simp [same]
  cases isLocal : state.frame.locals.contains name with
  | true => simpa [bind, bindsGlobally, isLocal] using inLocals
  | false =>
      -- The name is bound in the module only if no local variable hides it.
      have inGlobals : ({ state with
            run.globals := state.run.globals.insert name (.value value) }.scope environment).value?
              other =
          if Text.asciiLower name = Text.asciiLower other then some value
          else (state.scope environment).value? other := by
        simp only [scope, Scope.value?, Scope.bound?, NameMap.get?_insert]
        by_cases same : Text.asciiLower name = Text.asciiLower other
        · have notLocal : state.frame.locals.get? other = none := by
            rw [NameMap.contains, same, ← NameMap.contains, NameMap.contains_eq_isSome] at isLocal
            exact Option.not_isSome_iff_eq_none.1 (by simp [isLocal])
          simp [same, notLocal, Binding.value?]
        · simp [same]
      unfold bind
      split
      · exact inGlobals
      · exact inLocals

theorem set_eq_bind {name : String} (plain : IsPlainName name) (value : Value) :
    state.set environment name value =
      (state.scanValue (state.heap.coerceTo (state.frame.types.get? name) value)).bind .automatic
        name (.value (state.heap.coerceTo (state.frame.types.get? name) value)) := by
  have stored : state.storedName name = name := by
    simp only [storedName, plain.trim_eq, plain.startsWith_dot]
    rfl
  have noText : Text.dropEnd? ".text" (Text.asciiLower name) = none :=
    plain.asciiLower.dropEnd?_eq (by decide : isNameMark '.' = true) (by decide)
  have noTypedValue : Text.dropEnd? ".nodetypedvalue" (Text.asciiLower name) = none :=
    plain.asciiLower.dropEnd?_eq (by decide : isNameMark '.' = true) (by decide)
  simp only [set, assign, stored, convertNode, noText, noTypedValue]

@[simp] theorem scope_scanValue (value : Value) :
    (state.scanValue value).scope environment = state.scope environment := by
  cases value <;> rfl

theorem value?_set {name : String} (plain : IsPlainName name) (value : Value) (other : String) :
    ((state.set environment name value).scope environment).value? other =
      if Text.asciiLower name = Text.asciiLower other then
        some (state.heap.coerceTo (state.frame.types.get? name) value)
      else (state.scope environment).value? other := by
  rw [set_eq_bind plain, value?_bind, scope_scanValue]

end State

end MacroSandbox
