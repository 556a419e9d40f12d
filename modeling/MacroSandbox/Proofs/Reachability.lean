import MacroSandbox.Analysis
import MacroSandbox.Proofs.Variables

/-! Which procedures the search for calls finds. Every name that it follows is seen afterwards, so the
search has followed every call when it ends: what it found is closed under calls. -/

namespace MacroSandbox

namespace Scope

variable {scope : Scope}

/-! ## Procedures by name -/

theorem procedure?_asciiLower (name : String) :
    scope.procedure? (Text.asciiLower name) = scope.procedure? name := by
  simp [procedure?, Text.trim_asciiLower]

theorem procedure?_eq_some_iff {name : String} {procedure : Procedure} :
    scope.procedure? name = some procedure ↔
      scope.globals.get? (Text.trim name) = some (.procedure procedure) := by
  rw [procedure?]
  rcases scope.globals.get? (Text.trim name) with - | (- | held)
  · simp
  · simp [Binding.procedure?]
  · simp [Binding.procedure?]

theorem mem_procedures {name : String} {procedure : Procedure}
    (found : scope.procedure? name = some procedure) : procedure ∈ scope.procedures := by
  rw [procedure?_eq_some_iff, NameMap.get?, Std.TreeMap.get?_eq_getElem?] at found
  refine List.mem_filterMap.2 ⟨_, Std.TreeMap.mem_toList_iff_getElem?_eq_some.2 found, rfl⟩

/-! ## One step of the search -/

section

variable {seen : Std.TreeSet String} {names rest : List String} {name : String}
  {procedure : Procedure}

/-- What the search takes next was not seen, and is that of the first name that is left. -/
theorem of_nextCall? (next : scope.nextCall? seen names = some (name, procedure, rest)) :
    name ∉ seen ∧ scope.procedure? name = some procedure ∧ name ∈ names ∧
      (∀ other ∈ rest, other ∈ names) ∧
      ∀ other ∈ names, ∀ called, scope.procedure? other = some called →
        other ∈ seen ∨ other = name ∨ other ∈ rest := by
  induction names with
  | nil => cases next
  | cons first later induction =>
      rw [nextCall?] at next
      split at next
      · rename_i isSeen
        obtain ⟨unseen, found, member, kept, covers⟩ := induction next
        refine ⟨unseen, found, .tail _ member, fun other inRest => .tail _ (kept other inRest), ?_⟩
        intro other inNames called isFound
        rcases List.mem_cons.1 inNames with rfl | inLater
        · exact .inl (Std.TreeSet.contains_iff_mem.1 isSeen)
        · exact covers other inLater called isFound
      · rename_i unseen
        split at next
        · rename_i found
          cases next
          refine ⟨fun isSeen => unseen (Std.TreeSet.contains_iff_mem.2 isSeen), found, .head _,
            fun _ => .tail _, fun other inNames _ _ => .inr ?_⟩
          exact List.mem_cons.1 inNames
        · rename_i missing
          obtain ⟨unseen, found, member, kept, covers⟩ := induction next
          refine ⟨unseen, found, .tail _ member, fun other inRest => .tail _ (kept other inRest), ?_⟩
          intro other inNames called isFound
          rcases List.mem_cons.1 inNames with rfl | inLater
          · rw [missing] at isFound
            cases isFound
          · exact covers other inLater called isFound

theorem nextCall?_eq_none_iff :
    scope.nextCall? seen names = none ↔
      ∀ name ∈ names, ∀ procedure, scope.procedure? name = some procedure → name ∈ seen := by
  induction names with
  | nil => simp [nextCall?]
  | cons first later induction =>
      rw [nextCall?, List.forall_mem_cons, ← induction]
      split
      · rename_i isSeen
        simp [Std.TreeSet.contains_iff_mem.1 isSeen]
      · rename_i unseen
        rw [Std.TreeSet.contains_iff_mem] at unseen
        cases scope.procedure? first <;> simp [unseen]

end

/-! ## The search -/

def LeadsInto (scope : Scope) (seen : Std.TreeSet String) (listed : List Procedure)
    (names : List String) : Prop :=
  ∀ name ∈ names, ∀ procedure, scope.procedure? name = some procedure →
    name ∈ seen ∨ procedure ∈ listed

structure IsReached (scope : Scope) (pending : List String) (seen : Std.TreeSet String)
    (found reached : List Procedure) : Prop where
  keeps : ∀ procedure ∈ found, procedure ∈ reached
  follows : scope.LeadsInto seen reached pending
  calls : ∀ procedure ∈ reached, procedure ∈ found ∨
    scope.LeadsInto seen reached (Node.procedure procedure).mentions

theorem LeadsInto.of_insert {seen : Std.TreeSet String} {listed : List Procedure}
    {names : List String} {name : String} {procedure : Procedure}
    (found : scope.procedure? name = some procedure) (isListed : procedure ∈ listed)
    (leads : scope.LeadsInto (seen.insert name) listed names) :
    scope.LeadsInto seen listed names := by
  intro other member called isFound
  rcases leads other member called isFound with isSeen | inListed
  · rcases Std.TreeSet.mem_insert.1 isSeen with same | isSeen
    · rw [Std.LawfulEqCmp.compare_eq_iff_eq] at same
      subst same
      obtain rfl := Option.some.inj (found.symm.trans isFound)
      exact .inr isListed
    · exact .inl isSeen
  · exact .inr inListed

def unseen (seen : Std.TreeSet String) (names : List String) : List String :=
  names.filter fun name => !seen.contains name

theorem length_unseen_insert_lt {seen : Std.TreeSet String} {names : List String} {name : String}
    (member : name ∈ names) (isUnseen : name ∉ seen) :
    (unseen (seen.insert name) names).length < (unseen seen names).length := by
  have notContained : seen.contains name = false :=
    Bool.eq_false_iff.2 fun contained => isUnseen (Std.TreeSet.contains_iff_mem.1 contained)
  have fewer : unseen (seen.insert name) names =
      (unseen seen names).filter fun other => !(compare name other == .eq) := by
    simp only [unseen, List.filter_filter, Std.TreeSet.contains_insert, Bool.not_or]
  rw [fewer, List.length_filter_lt_length_iff_exists]
  exact ⟨name, List.mem_filter.2 ⟨member, by simp [notContained]⟩, by simp⟩

structure Covers (scope : Scope) (names pending : List String) : Prop where
  pending : ∀ name ∈ pending, name ∈ names
  calls : ∀ name procedure, scope.procedure? name = some procedure →
    ∀ mentioned ∈ (Node.procedure procedure).mentions, mentioned ∈ names

theorem covers_callNames (scope : Scope) (node : Node) :
    scope.Covers (node.callNames scope) node.mentions where
  pending _ member := List.mem_append_left _ member
  calls _ _ found _ mentioned :=
    List.mem_append_right _ (List.mem_flatMap.2 ⟨_, mem_procedures found, mentioned⟩)

theorem Covers.next {names pending rest : List String} {name : String} {procedure : Procedure}
    (covers : scope.Covers names pending) (found : scope.procedure? name = some procedure)
    (kept : ∀ other ∈ rest, other ∈ pending) :
    scope.Covers names ((Node.procedure procedure).mentions ++ rest) where
  pending other member := by
    rcases List.mem_append.1 member with mentioned | inRest
    · exact covers.calls name procedure found other mentioned
    · exact covers.pending other (kept other inRest)
  calls := covers.calls

theorem reachFrom_isReached {names : List String} : ∀ {remaining : Nat} {pending : List String}
    {seen : Std.TreeSet String} {found : List Procedure}, scope.Covers names pending →
      (unseen seen names).length ≤ remaining →
      scope.IsReached pending seen found (scope.reachFrom remaining pending seen found)
  | 0, pending, seen, found, covers, enough => by
      refine ⟨fun _ member => member, fun name member procedure _ => .inl ?_, fun _ => .inl⟩
      have allSeen : unseen seen names = [] := List.length_eq_zero_iff.1 (Nat.le_zero.1 enough)
      have isSeen := List.filter_eq_nil_iff.1 allSeen name (covers.pending name member)
      exact Std.TreeSet.contains_iff_mem.1 (by simpa using isSeen)
  | remaining + 1, pending, seen, found, covers, enough => by
      rw [reachFrom]
      split
      · rename_i ended
        exact ⟨fun _ member => member, fun name member procedure isFound =>
          .inl (nextCall?_eq_none_iff.1 ended name member procedure isFound), fun _ => .inl⟩
      · rename_i name procedure rest next
        obtain ⟨isUnseen, isFound, member, kept, others⟩ := of_nextCall? next
        -- The name is seen from now on, so fewer names are left.
        have fewer := length_unseen_insert_lt (covers.pending name member) isUnseen
        have reached := @reachFrom_isReached names remaining
          ((Node.procedure procedure).mentions ++ rest) (seen.insert name) (procedure :: found)
          (covers.next isFound kept) (by omega)
        have listed := reached.keeps procedure List.mem_cons_self
        have follows := reached.follows.of_insert isFound listed
        refine ⟨fun other inFound => reached.keeps other (.tail _ inFound), ?_, ?_⟩
        · intro other inPending called isCalled
          -- A pending name was seen, is that of the procedure found, or stays pending.
          rcases others other inPending called isCalled with isSeen | rfl | inRest
          · exact .inl isSeen
          · obtain rfl := Option.some.inj (isFound.symm.trans isCalled)
            exact .inr listed
          · exact follows other (List.mem_append_right _ inRest) called isCalled
        · intro other inReached
          rcases reached.calls other inReached with earlier | leads
          · rcases List.mem_cons.1 earlier with rfl | before
            · exact .inr fun mentioned inMentions =>
                follows mentioned (List.mem_append_left _ inMentions)
            · exact .inl before
          · exact .inr (leads.of_insert isFound listed)

/-- What holds of all procedures that the pending names find, and of all that such a procedure
mentions, holds of all that the search finds. -/
theorem of_mem_reachFrom {Holds : Procedure → Prop} : ∀ {remaining : Nat} {pending : List String}
    {seen : Std.TreeSet String} {found : List Procedure}, (∀ procedure ∈ found, Holds procedure) →
      (∀ name ∈ pending, ∀ procedure, scope.procedure? name = some procedure → Holds procedure) →
      (∀ caller, Holds caller → ∀ name ∈ (Node.procedure caller).mentions,
        ∀ procedure, scope.procedure? name = some procedure → Holds procedure) →
      ∀ procedure ∈ scope.reachFrom remaining pending seen found, Holds procedure
  | 0, _, _, _, ofFound, _, _ => ofFound
  | remaining + 1, pending, seen, found, ofFound, ofPending, ofCalls => by
      rw [reachFrom]
      split
      · exact ofFound
      · rename_i name procedure rest next
        obtain ⟨_, isFound, member, kept, _⟩ := of_nextCall? next
        have ofNext : Holds procedure := ofPending name member procedure isFound
        refine of_mem_reachFrom (List.forall_mem_cons.2 ⟨ofNext, ofFound⟩) ?_ ofCalls
        intro other mentioned called isCalled
        rcases List.mem_append.1 mentioned with inNext | later
        · exact ofCalls procedure ofNext other inNext called isCalled
        · exact ofPending other (kept other later) called isCalled

end Scope

/-! ## Procedures that a part reaches -/

namespace Node

variable {node : Node} {scope : Scope}

theorem mem_reachableProcedures_iff {procedure : Procedure} :
    procedure ∈ node.reachableProcedures scope ↔
      procedure ∈ scope.reachFrom (node.callNames scope).length node.mentions ∅ [] :=
  List.mem_mergeSort

theorem isReached (node : Node) (scope : Scope) :
    scope.IsReached node.mentions ∅ []
      (scope.reachFrom (node.callNames scope).length node.mentions ∅ []) :=
  Scope.reachFrom_isReached (Scope.covers_callNames scope node) (List.length_filter_le _ _)

theorem mem_reachableProcedures_of_mentions {name : String} {procedure : Procedure}
    (mentioned : name ∈ node.mentions) (found : scope.procedure? name = some procedure) :
    procedure ∈ node.reachableProcedures scope :=
  mem_reachableProcedures_iff.2 <|
    ((node.isReached scope).follows name mentioned procedure found).resolve_left
      Std.TreeSet.not_mem_emptyc

theorem mem_reachableProcedures_of_reachable {caller procedure : Procedure} {name : String}
    (reachable : caller ∈ node.reachableProcedures scope)
    (mentioned : name ∈ (Node.procedure caller).mentions)
    (found : scope.procedure? name = some procedure) :
    procedure ∈ node.reachableProcedures scope := by
  rcases (node.isReached scope).calls caller (mem_reachableProcedures_iff.1 reachable) with
    inNone | leads
  · cases inNone
  · exact mem_reachableProcedures_iff.2 <|
      (leads name mentioned procedure found).resolve_left Std.TreeSet.not_mem_emptyc

theorem of_mem_reachableProcedures {Holds : Procedure → Prop}
    (ofPart : ∀ name ∈ node.mentions, ∀ procedure, scope.procedure? name = some procedure →
      Holds procedure)
    (ofCalls : ∀ caller, Holds caller → ∀ name ∈ (Node.procedure caller).mentions,
      ∀ procedure, scope.procedure? name = some procedure → Holds procedure)
    {procedure : Procedure} (reachable : procedure ∈ node.reachableProcedures scope) :
    Holds procedure :=
  Scope.of_mem_reachFrom (fun _ inNone => nomatch inNone) ofPart ofCalls procedure
    (mem_reachableProcedures_iff.1 reachable)

theorem exists_of_mem_reachableProcedures {procedure : Procedure}
    (reachable : procedure ∈ node.reachableProcedures scope) :
    ∃ name, scope.procedure? name = some procedure := by
  have isFound : ∀ name procedure, scope.procedure? name = some procedure →
      ∃ name, scope.procedure? name = some procedure :=
    fun name _ found => ⟨name, found⟩
  exact of_mem_reachableProcedures (fun name _ => isFound name) (fun _ _ name _ => isFound name)
    reachable

theorem reachableProcedures_eq_nil (absent : ∀ name ∈ node.mentions, scope.procedure? name = none) :
    node.reachableProcedures scope = [] := by
  apply List.eq_nil_iff_forall_not_mem.2
  intro procedure reachable
  have none : ∀ name ∈ node.mentions, ∀ procedure, scope.procedure? name = some procedure → False := by
    intro name mentioned procedure found
    rw [absent name mentioned] at found
    cases found
  exact of_mem_reachableProcedures none (fun _ impossible => impossible.elim) reachable

end Node

end MacroSandbox
