import MacroSandbox.Loop.Lowering
import MacroSandbox.Proofs.ArraySizes
import MacroSandbox.Proofs.CachedResults
import MacroSandbox.Proofs.NameStems

/-! Declarations with integer bounds, and what they leave in variables.

A declaration may reset its variable, or bind it only if it is not bound yet. If each one resets it, the
last declaration of a name counts; otherwise the first one does. For names that are new and declared
once it makes no difference. -/

namespace MacroSandbox

/-! ## Variables that hold data -/

namespace Heap

/-- A value holds a datum, in places that the heap has. -/
def HoldsDatum (heap : Heap) (datum : Datum) (value : Value) : Prop :=
  Heap.Shows {} heap datum value ∧ Heap.IsNewSince {} heap value

variable {heap later : Heap} {datum other : Datum} {value : Value}

theorem HoldsDatum.unique (holds : heap.HoldsDatum datum value)
    (otherHolds : heap.HoldsDatum other value) : datum = other := by
  have shown := contentsWithin_of_shows datum holds.1 (Nat.le_max_left datum.depth other.depth)
  have otherShown :=
    contentsWithin_of_shows other otherHolds.1 (Nat.le_max_right datum.depth other.depth)
  rw [← shown, otherShown]

theorem HoldsDatum.of_keepsBut (holds : heap.HoldsDatum datum value)
    (keeps : heap.KeepsBut none later) : later.HoldsDatum datum value := by
  have untouched (value : Value) (touched : none = some value) : ({} : Heap).owns value = true :=
    nomatch touched
  exact ⟨Shows.of_keepsBut untouched keeps datum (isLeftAlone_of_isNewSince untouched holds.2) holds.1,
    holds.2.of_keepsBut keeps⟩

/-- A variable holds a datum, or there is none and the variable is unbound. -/
def HoldsOptional (heap : Heap) (contents : Option Datum) (value : Option Value) : Prop :=
  Option.Rel heap.HoldsDatum contents value

theorem HoldsOptional.unique {contents others : Option Datum} {value : Option Value}
    (holds : heap.HoldsOptional contents value) (otherHolds : heap.HoldsOptional others value) :
    contents = others := by
  cases holds with
  | none =>
      cases otherHolds
      rfl
  | some held =>
      cases otherHolds with
      | some otherHeld => exact congrArg some (held.unique otherHeld)

theorem HoldsOptional.isSome_eq {contents : Option Datum} {value : Option Value}
    (holds : heap.HoldsOptional contents value) : contents.isSome = value.isSome := by
  cases holds <;> rfl

theorem HoldsOptional.eq_none {value : Option Value} (holds : heap.HoldsOptional none value) :
    value = none := by
  cases holds
  rfl

theorem HoldsOptional.of_keepsBut {contents : Option Datum} {value : Option Value}
    (holds : heap.HoldsOptional contents value) (keeps : heap.KeepsBut none later) :
    later.HoldsOptional contents value := by
  cases holds with
  | none => exact .none
  | some held => exact .some (held.of_keepsBut keeps)

theorem HoldsDatum.coerceTo (holds : heap.HoldsDatum datum value) (type : Option DeclaredType) :
    heap.HoldsDatum (datum.coerceTo type) (heap.coerceTo type value) := by
  refine ⟨holds.1.coerceTo type, ?_⟩
  cases reference : value.isReference with
  | true =>
      rw [coerceTo_eq_of_isReference reference]
      exact holds.2
  | false => exact isNewSince_of_not_isReference (isReference_coerceTo reference)

theorem holdsDatum_build (sound : datum.IsSound) (heap : Heap) :
    (datum.build heap).2.HoldsDatum datum (datum.build heap).1 :=
  shows_build datum sound ⟨Nat.zero_le _, Nat.zero_le _⟩

end Heap

/-! ## Declarations -/

/-- A declaration whose bounds are integers. A variable that is no array has no bounds. -/
structure LiteralDeclaration where
  name : String
  type : Option DeclaredType := none
  bounds : List Int64 := []

namespace LiteralDeclaration

def source (declaration : LiteralDeclaration) : Declaration :=
  { name := declaration.name
    type := declaration.type
    bounds := declaration.bounds.map fun bound => .literal (.integer bound) }

def lowered (declaration : LiteralDeclaration) : LoopDeclaration :=
  { name := Text.asciiLower declaration.name
    type := declaration.type
    bounds := declaration.bounds.map fun bound => .constant (.integer bound) }

def key (declaration : LiteralDeclaration) : String :=
  Text.asciiLower declaration.name

def HasSimpleName (declaration : LiteralDeclaration) : Prop :=
  IsDotFree declaration.name ∧ Text.trim declaration.name = declaration.name

instance (declaration : LiteralDeclaration) : Decidable declaration.HasSimpleName :=
  inferInstanceAs (Decidable (IsDotFree declaration.name ∧ _ = declaration.name))

def dimensions (declaration : LiteralDeclaration) : List Int64 :=
  declaration.bounds.map fun bound => dimensionOfBound (.integer bound)

def refusal? (declaration : LiteralDeclaration) : Option Fault :=
  match (newArray {} declaration.dimensions declaration.type).1 with
  | .ok _ => none
  | .error fault => some fault

def initial (declaration : LiteralDeclaration) : Datum :=
  Datum.nested (Heap.contents {} (DeclaredType.initial declaration.type))
    (sizesOf declaration.dimensions)

variable {declaration : LiteralDeclaration}

theorem isSound_initial (declaration : LiteralDeclaration) : declaration.initial.IsSound :=
  Datum.isSound_nested (Heap.isSound_contentsWithin _ _ _) _

theorem newArray_eq (declaration : LiteralDeclaration) (heap : Heap) :
    newArray heap declaration.dimensions declaration.type =
      match declaration.refusal? with
      | some fault => (.error fault, heap)
      | none => (.ok (declaration.initial.build heap).1, (declaration.initial.build heap).2) := by
  rw [refusal?, initial, ← buildArray_eq_build]
  unfold newArray
  cases slotCount? declaration.dimensions 1 with
  | none => rfl
  | some count =>
      dsimp only
      split <;> rfl

theorem dimensions_eq (declaration : LiteralDeclaration) :
    (declaration.bounds.map Value.integer).map dimensionOfBound = declaration.dimensions := by
  rw [List.map_map]
  rfl

theorem build_initial_of_scalar (noBounds : declaration.bounds = []) (heap : Heap) :
    declaration.refusal? = none ∧
      declaration.initial.build heap = (DeclaredType.initial declaration.type, heap) := by
  unfold refusal? initial dimensions
  rw [noBounds]
  exact ⟨rfl, Heap.build_contents (isReference_initial declaration.type) {} heap⟩

theorem admitted_or_refused (declarations : List LiteralDeclaration) :
    (∀ declaration ∈ declarations, declaration.refusal? = none) ∨
      ∃ admitted refused rest fault, declarations = admitted ++ refused :: rest ∧
        (∀ declaration ∈ admitted, declaration.refusal? = none) ∧ refused.refusal? = some fault := by
  induction declarations with
  | nil => exact .inl nofun
  | cons declaration rest induction =>
      cases refusal : declaration.refusal? with
      | some fault => exact .inr ⟨[], declaration, rest, fault, rfl, nofun, refusal⟩
      | none =>
          rcases induction with admitted | ⟨admitted, refused, others, fault, rfl, all, isRefused⟩
          · exact .inl (List.forall_mem_cons.2 ⟨refusal, admitted⟩)
          · exact .inr ⟨declaration :: admitted, refused, others, fault, rfl,
              List.forall_mem_cons.2 ⟨refusal, all⟩, isRefused⟩

theorem lowerDeclarations?_source (context : LoweringContext) (declarations : List LiteralDeclaration) :
    context.lowerDeclarations? (declarations.map source) = some (declarations.map lowered) := by
  have bounds (bounds : List Int64) :
      context.lowerExprs? (bounds.map fun bound => .literal (.integer bound)) =
        some (bounds.map fun bound => .constant (.integer bound)) := by
    induction bounds with
    | nil => rfl
    | cons bound rest induction =>
        simp only [List.map_cons, LoweringContext.lowerExprs?, LoweringContext.lowerExpr?, induction]
  induction declarations with
  | nil => rfl
  | cons declaration rest induction =>
      simp only [List.map_cons, LoweringContext.lowerDeclarations?,
        LoweringContext.lowerDeclaration?, source, lowered, bounds, Option.map_some, induction]

/-! ## What declarations leave -/

/-- What the declarations of a name leave if each of them resets the variable, which has a type from
before or not. -/
def reset? (name : String) : (type : Option DeclaredType) → List LiteralDeclaration → Option Datum
  | _, [] => none
  | type, declaration :: rest =>
      if declaration.key = name then
        let type := declaration.type.or type
        (reset? name type rest).or (some (declaration.initial.coerceTo type))
      else reset? name type rest

/-- What the declarations of a name leave if the first of them binds the variable and the others do
nothing. -/
def first? (name : String) : List LiteralDeclaration → Option Datum
  | [] => none
  | declaration :: rest =>
      if declaration.key = name then some declaration.initial else first? name rest

variable {declarations rest : List LiteralDeclaration} {name : String}

theorem reset?_or {declaration : LiteralDeclaration} (member : declaration ∈ declarations)
    (type : Option DeclaredType) (contents : Option Datum) :
    (reset? declaration.key type declarations).or contents =
      reset? declaration.key type declarations := by
  induction declarations generalizing type with
  | nil => cases member
  | cons first rest induction =>
      rw [reset?]
      split
      · dsimp only
        rw [Option.or_assoc, Option.some_or]
      · rename_i differs
        rcases List.mem_cons.1 member with rfl | later
        · exact absurd rfl differs
        · exact induction later type

theorem reset?_eq_none (other : ∀ declaration ∈ declarations, declaration.key ≠ name)
    (type : Option DeclaredType) : reset? name type declarations = none := by
  induction declarations with
  | nil => rfl
  | cons declaration rest induction =>
      rw [reset?, if_neg (other declaration List.mem_cons_self)]
      exact induction fun later member => other later (List.mem_cons_of_mem _ member)

theorem first?_eq_none (other : ∀ declaration ∈ declarations, declaration.key ≠ name) :
    first? name declarations = none := by
  induction declarations with
  | nil => rfl
  | cons declaration rest induction =>
      rw [first?, if_neg (other declaration List.mem_cons_self)]
      exact induction fun later member => other later (List.mem_cons_of_mem _ member)

/-! ## New names -/

/-- The names are declared once, they are not bound before, and no type is known for those that are
declared without one, arrays apart. -/
structure AreNew (declarations : List LiteralDeclaration) (before : String → Option Datum)
    (types : String → Option DeclaredType) : Prop where
  distinct : (declarations.map key).Nodup
  unbound : ∀ declaration ∈ declarations, before declaration.key = none
  untyped : ∀ declaration ∈ declarations, declaration.type = none → declaration.bounds = [] →
    types declaration.key = none

/-- A type of its own does not change the first value of a variable, and none that of an array. -/
theorem coerceTo_initial {declaration : LiteralDeclaration} {type : Option DeclaredType}
    (untyped : declaration.type = none → declaration.bounds = [] → type = none) :
    declaration.initial.coerceTo (declaration.type.or type) = declaration.initial := by
  unfold initial dimensions
  cases bounds : declaration.bounds with
  | cons bound rest => rfl
  | nil =>
      cases ownType : declaration.type with
      | none =>
          rw [untyped ownType bounds]
          rfl
      | some kind => cases kind <;> rfl

variable {before : String → Option Datum} {types : String → Option DeclaredType}

theorem AreNew.append_left (new : AreNew (declarations ++ rest) before types) :
    AreNew declarations before types where
  distinct := by
    have distinct := new.distinct
    rw [List.map_append] at distinct
    exact distinct.of_append_left
  unbound declaration member := new.unbound declaration (List.mem_append_left _ member)
  untyped declaration member := new.untyped declaration (List.mem_append_left _ member)

theorem AreNew.first?_eq_none {later : LiteralDeclaration}
    (new : AreNew (declarations ++ later :: rest) before types) :
    first? later.key declarations = none := by
  refine LiteralDeclaration.first?_eq_none fun declaration member same => ?_
  have distinct := new.distinct
  rw [List.map_append, List.map_cons] at distinct
  exact (List.nodup_append.1 distinct).2.2 _ (List.mem_map_of_mem member) _ List.mem_cons_self same

theorem AreNew.reset?_eq_first? (new : AreNew declarations before types) :
    reset? name (types name) declarations = first? name declarations := by
  induction declarations with
  | nil => rfl
  | cons declaration rest induction =>
      obtain ⟨others, distinct⟩ := List.nodup_cons.1 new.distinct
      rw [reset?, first?]
      split
      · rename_i same
        have noOther : ∀ later ∈ rest, later.key ≠ name := by
          rintro later member rfl
          exact others (same ▸ List.mem_map_of_mem member)
        have untyped := new.untyped declaration List.mem_cons_self
        rw [same] at untyped
        dsimp only
        rw [reset?_eq_none noOther, Option.none_or, coerceTo_initial untyped]
      · exact induction ⟨distinct,
          fun later member => new.unbound later (List.mem_cons_of_mem _ member),
          fun later member => new.untyped later (List.mem_cons_of_mem _ member)⟩

end LiteralDeclaration

end MacroSandbox
