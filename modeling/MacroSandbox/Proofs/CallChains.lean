import Mathlib.Logic.Relation
import MacroSandbox.Proofs.Announcements
import MacroSandbox.Proofs.ClosedPrograms
import MacroSandbox.Proofs.Mentions

/-! Reachable procedures are the ends of chains of calls.

The search takes names from its pending list, so all that it finds is at the end of a chain that starts
at the part. That it stops only where every chain was followed is said in `Reachability`. -/

namespace MacroSandbox

/-! ## Chains -/

def Scope.Calls (scope : Scope) (caller called : Node) : Prop :=
  ∃ procedure name, called = .procedure procedure ∧ caller.Mentions procedure.name ∧
    scope.globals.get? name = some (.procedure procedure)

def Scope.LeadsTo (scope : Scope) (node : Node) (procedure : Procedure) : Prop :=
  Relation.TransGen scope.Calls node (.procedure procedure)

/-! ## The search -/

namespace Scope

variable {scope : Scope} {names : List String}

theorem reachFrom_eq_of_length_le : ∀ {steps more : Nat} {pending : List String}
    {seen : Std.TreeSet String} {found : List Procedure}, scope.Covers names pending →
      (unseen seen names).length ≤ steps → steps ≤ more →
      scope.reachFrom more pending seen found = scope.reachFrom steps pending seen found
  | _, 0, _, _, _, _, _, few => by rw [Nat.le_zero.1 few]
  | 0, more + 1, pending, seen, found, covers, enough, _ => by
      have allSeen : unseen seen names = [] := List.length_eq_zero_iff.1 (Nat.le_zero.1 enough)
      have ended : scope.nextCall? seen pending = none := by
        refine nextCall?_eq_none_iff.2 fun name member _ _ => ?_
        have isSeen := List.filter_eq_nil_iff.1 allSeen name (covers.pending name member)
        exact Std.TreeSet.contains_iff_mem.1 (by simpa using isSeen)
      simp only [reachFrom, ended]
  | steps + 1, more + 1, pending, seen, found, covers, enough, few => by
      simp only [reachFrom]
      split
      · rfl
      · rename_i name procedure rest next
        obtain ⟨isUnseen, isFound, member, kept, _⟩ := of_nextCall? next
        have fewer := length_unseen_insert_lt (covers.pending name member) isUnseen
        exact reachFrom_eq_of_length_le (covers.next isFound kept) (by omega) (by omega)

/-- Where the pending names are those of the procedures that they find, and so are all names that such a
procedure mentions, the search finds no procedure twice. -/
theorem nodup_lowerNames_reachFrom {Holds : Procedure → Prop}
    (ofCalls : ∀ caller, Holds caller → ∀ name ∈ (Node.procedure caller).mentions,
      ∀ procedure, scope.procedure? name = some procedure →
        Text.asciiLower procedure.name = name ∧ Holds procedure) :
    ∀ {remaining : Nat} {pending : List String} {seen : Std.TreeSet String}
      {found : List Procedure},
      (∀ name ∈ pending, ∀ procedure, scope.procedure? name = some procedure →
        Text.asciiLower procedure.name = name ∧ Holds procedure) →
      (∀ name ∈ lowerNames found, name ∈ seen) → (lowerNames found).Nodup →
      (lowerNames (scope.reachFrom remaining pending seen found)).Nodup
  | 0, _, _, _, _, _, distinct => distinct
  | remaining + 1, pending, seen, found, ofPending, areSeen, distinct => by
      rw [reachFrom]
      split
      · exact distinct
      · rename_i name procedure rest next
        obtain ⟨isUnseen, isFound, member, kept, _⟩ := of_nextCall? next
        obtain ⟨rfl, holds⟩ := ofPending name member procedure isFound
        refine nodup_lowerNames_reachFrom ofCalls (fun other inPending => ?_) ?_ ?_
        · rcases List.mem_append.1 inPending with mentioned | inRest
          · exact ofCalls procedure holds other mentioned
          · exact ofPending other (kept other inRest)
        · intro other inFound
          rcases List.mem_cons.1 inFound with rfl | before
          · exact Std.TreeSet.mem_insert_self
          · exact Std.TreeSet.mem_insert.2 (.inr (areSeen other before))
        · exact List.nodup_cons.2 ⟨fun before => isUnseen (areSeen _ before), distinct⟩

end Scope

/-! ## Reachable procedures -/

theorem Node.asciiLower_of_mem_mentions {node : Node} {name : String}
    (mentioned : name ∈ node.mentions) : Text.asciiLower name = name := by
  obtain ⟨inner, -, names⟩ := List.mem_filterMap.1 mentioned
  unfold variableName? at names
  split at names
  · rw [← Option.some.inj names, Text.asciiLower_asciiLower]
  · cases names

theorem Node.IsTrimmed.trim_of_mem_mentions {node : Node} (trimmed : node.IsTrimmed) {name : String}
    (mentioned : name ∈ node.mentions) : Text.trim name = name := by
  obtain ⟨inner, member, names⟩ := List.mem_filterMap.1 mentioned
  unfold variableName? at names
  split at names
  · rw [← Option.some.inj names, Text.trim_asciiLower, trimmed _ member]
  · cases names

section

variable {node : Node} {scope : Scope}

theorem Scope.asciiLower_of_procedure? (registers : scope.globals.RegistersProcedures) {name : String}
    {procedure : Procedure} (trimmed : Text.trim name = name)
    (found : scope.procedure? name = some procedure) :
    Text.asciiLower procedure.name = Text.asciiLower name := by
  rw [procedure?_eq_some_iff, trimmed] at found
  exact registers name procedure found

theorem Scope.asciiLower_of_mem_mentions (registers : scope.globals.RegistersProcedures)
    (trimmed : node.IsTrimmed) {name : String} (mentioned : name ∈ node.mentions)
    {procedure : Procedure} (found : scope.procedure? name = some procedure) :
    Text.asciiLower procedure.name = name := by
  rw [asciiLower_of_procedure? registers (trimmed.trim_of_mem_mentions mentioned) found,
    Node.asciiLower_of_mem_mentions mentioned]

theorem Scope.calls_iff (registers : scope.globals.RegistersProcedures) (trimmed : node.IsTrimmed)
    {procedure : Procedure} :
    scope.Calls node (.procedure procedure) ↔
      ∃ name ∈ node.mentions, scope.procedure? name = some procedure := by
  constructor
  · rintro ⟨_, name, same, mentions, bound⟩
    cases same
    have mentioned := Node.mem_mentions_iff.2 mentions
    refine ⟨_, mentioned, ?_⟩
    rw [procedure?_eq_some_iff, trimmed.trim_of_mem_mentions mentioned,
      registers name procedure bound, NameMap.get?_asciiLower, bound]
  · rintro ⟨name, mentioned, found⟩
    have isTrimmed := trimmed.trim_of_mem_mentions mentioned
    have own := asciiLower_of_procedure? registers isTrimmed found
    refine ⟨procedure, name, rfl, ?_, by rwa [procedure?_eq_some_iff, isTrimmed] at found⟩
    rw [← Node.mem_mentions_iff, own, Node.asciiLower_of_mem_mentions mentioned]
    exact mentioned

theorem Scope.exists_of_transGen_calls {caller called : Node}
    (leads : Relation.TransGen scope.Calls caller called) :
    ∃ procedure name, called = .procedure procedure ∧
      scope.globals.get? name = some (.procedure procedure) := by
  obtain ⟨_, _, procedure, name, same, _, bound⟩ := Relation.TransGen.tail'_iff.1 leads
  exact ⟨procedure, name, same, bound⟩

end

namespace Node

section

variable {node : Node} {scope : Scope} (registers : scope.globals.RegistersProcedures)
  (trimmed : node.IsTrimmed)
  (proceduresTrimmed : ∀ name procedure, scope.globals.get? name = some (.procedure procedure) →
    (Node.procedure procedure).IsTrimmed)
include proceduresTrimmed

theorem isTrimmed_of_leadsTo {procedure : Procedure} (leads : scope.LeadsTo node procedure) :
    (Node.procedure procedure).IsTrimmed := by
  obtain ⟨_, name, same, bound⟩ := Scope.exists_of_transGen_calls leads
  cases same
  exact proceduresTrimmed name procedure bound

include registers trimmed

theorem mem_reachableProcedures_iff_leadsTo {procedure : Procedure} :
    procedure ∈ node.reachableProcedures scope ↔ scope.LeadsTo node procedure := by
  constructor
  · -- Whatever the search finds is at the end of a chain.
    refine of_mem_reachableProcedures (fun name mentioned called found => ?_)
      fun caller leads name mentioned called found => ?_
    · exact .single ((Scope.calls_iff registers trimmed).2 ⟨name, mentioned, found⟩)
    · have callerTrimmed := isTrimmed_of_leadsTo proceduresTrimmed leads
      exact .tail leads ((Scope.calls_iff registers callerTrimmed).2 ⟨name, mentioned, found⟩)
  · -- Along the chain, every member is reachable.
    intro leads
    unfold Scope.LeadsTo at leads
    generalize ends : Node.procedure procedure = called at leads
    induction leads generalizing procedure with
    | single calls =>
        subst ends
        obtain ⟨name, mentioned, found⟩ := (Scope.calls_iff registers trimmed).1 calls
        exact mem_reachableProcedures_of_mentions mentioned found
    | tail leads calls induction =>
        subst ends
        obtain ⟨caller, _, rfl, _⟩ := Scope.exists_of_transGen_calls leads
        have callerTrimmed := isTrimmed_of_leadsTo proceduresTrimmed leads
        obtain ⟨name, mentioned, found⟩ := (Scope.calls_iff registers callerTrimmed).1 calls
        exact mem_reachableProcedures_of_reachable (induction rfl) mentioned found

theorem ordered_reachableProcedures :
    (lowerNames (node.reachableProcedures scope)).Pairwise (· < ·) := by
  refine ordered_lowerNames_mergeSort (fun _ _ => decide_eq_true_iff) ?_
  have ofPart : ∀ name ∈ node.mentions, ∀ procedure, scope.procedure? name = some procedure →
      Text.asciiLower procedure.name = name ∧ scope.LeadsTo node procedure :=
    fun name mentioned procedure found =>
      ⟨Scope.asciiLower_of_mem_mentions registers trimmed mentioned found,
        .single ((Scope.calls_iff registers trimmed).2 ⟨name, mentioned, found⟩)⟩
  have ofCalls : ∀ caller, scope.LeadsTo node caller →
      ∀ name ∈ (Node.procedure caller).mentions, ∀ procedure,
        scope.procedure? name = some procedure →
        Text.asciiLower procedure.name = name ∧ scope.LeadsTo node procedure := by
    intro caller leads name mentioned procedure found
    have callerTrimmed := isTrimmed_of_leadsTo proceduresTrimmed leads
    exact ⟨Scope.asciiLower_of_mem_mentions registers callerTrimmed mentioned found,
      .tail leads ((Scope.calls_iff registers callerTrimmed).2 ⟨name, mentioned, found⟩)⟩
  exact Scope.nodup_lowerNames_reachFrom ofCalls ofPart (fun _ inNone => nomatch inNone)
    List.nodup_nil

/-- The reachable procedures are those at the ends of chains of calls, each once, in the strict order of
their names in lower case. The search for them ends on its own: with more steps than there are names it
finds the same. -/
theorem reachableProcedures_exact :
    (∀ procedure, procedure ∈ node.reachableProcedures scope ↔ scope.LeadsTo node procedure) ∧
    (node.reachableProcedures scope).Nodup ∧
    (lowerNames (node.reachableProcedures scope)).Pairwise (· < ·) ∧
    ∀ steps, (node.callNames scope).length ≤ steps →
      scope.reachFrom steps node.mentions ∅ [] =
        scope.reachFrom (node.callNames scope).length node.mentions ∅ [] := by
  have ordered := ordered_reachableProcedures registers trimmed proceduresTrimmed
  refine ⟨fun _ => mem_reachableProcedures_iff_leadsTo registers trimmed proceduresTrimmed, ?_,
    ordered, fun _ enough => Scope.reachFrom_eq_of_length_le (Scope.covers_callNames scope node)
      (List.length_filter_le _ _) enough⟩
  exact .of_map _ (ordered.imp fun earlier => String.ne_of_lt earlier)

end

/-- `Even` and `Odd` call each other, and `Odd` calls itself. Nothing calls `Idle`. -/
private def evenProcedure : Procedure :=
  { name := "Even", kind := .function, body := [.assign (.var "x") (.call (.var "odd") [])] }

private def oddProcedure : Procedure :=
  { name := "Odd"
    kind := .function
    body := [.whileLoop (.var "ODD") [.call (.var "EVEN")]] }

private def idleProcedure : Procedure :=
  { name := "Idle", kind := .sub, body := [.call (.var "Even")] }

private def callingScope : Scope :=
  ((((State.start {} none {} {}).setProcedure oddProcedure).setProcedure idleProcedure).setProcedure
    evenProcedure).scope {}

private def callingStatement : Statement :=
  .assign (.var "y") (.binary .add (.literal (.integer 1)) (.var "even"))

private theorem eq_of_callingScope {name : String} {procedure : Procedure}
    (bound : callingScope.globals.get? name = some (.procedure procedure)) :
    procedure = evenProcedure ∨ procedure = idleProcedure ∨ procedure = oddProcedure := by
  simp only [callingScope, State.scope, State.setProcedure, NameMap.get?_insert] at bound
  split at bound
  · cases bound
    exact .inl rfl
  · split at bound
    · cases bound
      exact .inr (.inl rfl)
    · split at bound
      · cases bound
        exact .inr (.inr rfl)
      · simp [State.start, Run.start, NameMap.get?] at bound

/-- A statement that mentions `Even` reaches `Odd` through it, and does not reach `Idle`. -/
theorem reachableProcedures_exact_mutual :
    callingScope.globals.RegistersProcedures ∧ (Node.statement callingStatement).IsTrimmed ∧
    (∀ name procedure, callingScope.globals.get? name = some (.procedure procedure) →
      (Node.procedure procedure).IsTrimmed) ∧
    oddProcedure ∈ (Node.statement callingStatement).reachableProcedures callingScope ∧
    idleProcedure ∉ (Node.statement callingStatement).reachableProcedures callingScope := by
  have registers : callingScope.globals.RegistersProcedures :=
    .setProcedure (.setProcedure (.setProcedure .empty oddProcedure) idleProcedure) evenProcedure
  have trimmed : (Node.statement callingStatement).IsTrimmed := by decide +kernel
  have proceduresTrimmed : ∀ name procedure,
      callingScope.globals.get? name = some (.procedure procedure) →
      (Node.procedure procedure).IsTrimmed := by
    intro name procedure bound
    rcases eq_of_callingScope bound with rfl | rfl | rfl <;> decide +kernel
  obtain ⟨exact, _, _, _⟩ := reachableProcedures_exact registers trimmed proceduresTrimmed
  refine ⟨registers, trimmed, proceduresTrimmed, (exact _).2 ?_, fun reachable => ?_⟩
  · have even : callingScope.globals.get? "even" = some (.procedure evenProcedure) := rfl
    have odd : callingScope.globals.get? "odd" = some (.procedure oddProcedure) := rfl
    have callsEven : callingScope.Calls (.statement callingStatement) (.procedure evenProcedure) :=
      ⟨_, "even", rfl, .value (.right (.var (by decide +kernel))), even⟩
    have callsOdd : callingScope.Calls (.procedure evenProcedure) (.procedure oddProcedure) :=
      ⟨_, "odd", rfl, ⟨_, .head _, .value (.callee (.var (by decide +kernel)))⟩, odd⟩
    exact .tail (.single callsEven) callsOdd
  · -- The last member of a chain before `Idle` would mention it.
    obtain ⟨caller, before, _, _, same, mentions, _⟩ :=
      Relation.TransGen.tail'_iff.1 ((exact _).1 reachable)
    cases same
    rw [← mem_mentions_iff] at mentions
    rcases Relation.reflTransGen_iff_eq_or_transGen.1 before with rfl | leads
    · exact absurd mentions (by decide +kernel)
    · obtain ⟨_, _, rfl, bound⟩ := Scope.exists_of_transGen_calls leads
      rcases eq_of_callingScope bound with rfl | rfl | rfl <;>
        exact absurd mentions (by decide +kernel)

end Node

end MacroSandbox
