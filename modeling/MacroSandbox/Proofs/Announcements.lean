import Mathlib.Data.List.Nodup
import MacroSandbox.Proofs.Evolution

/-! The procedures that a module runs on its own, and their announcements.

Which procedures these are is said without the way in which they are found. Each is announced before it is
run, and nothing that the emulated program does can pass for an announcement. -/

namespace MacroSandbox

/-! ## Selected procedures -/

def lowerNames (procedures : List Procedure) : List String :=
  procedures.map fun procedure => Text.asciiLower procedure.name

theorem ordered_lowerNames_mergeSort {inOrder : Procedure → Procedure → Bool}
    (inOrder_iff : ∀ left right, inOrder left right = true ↔
      Text.asciiLower left.name ≤ Text.asciiLower right.name)
    {procedures : List Procedure} (distinct : (lowerNames procedures).Nodup) :
    (lowerNames (procedures.mergeSort inOrder)).Pairwise (· < ·) := by
  have ordered : (procedures.mergeSort inOrder).Pairwise fun left right =>
      inOrder left right = true := by
    apply List.pairwise_mergeSort
    · intro first second third
      simp only [inOrder_iff]
      exact String.le_trans
    · intro left right
      simp only [Bool.or_eq_true, inOrder_iff]
      exact String.le_total _ _
  have different : (lowerNames (procedures.mergeSort inOrder)).Nodup :=
    (((List.mergeSort_perm _ _).map _).nodup_iff).2 distinct
  unfold lowerNames at different ⊢
  rw [List.nodup_iff_pairwise_ne, List.pairwise_map] at different
  rw [List.pairwise_map]
  apply ordered.imp₂ _ different
  intro left right leftFirst notSame
  apply String.not_le.1
  intro rightFirst
  exact notSame (String.le_antisymm ((inOrder_iff left right).1 leftFirst) rightFirst)

theorem nodup_entryPointNames : (entryPointNames.map Text.asciiLower).Nodup := by
  decide +kernel

theorem sublist_lowerNames_filterMap {find : String → Option Procedure} {names : List String}
    (own : ∀ name ∈ names, ∀ procedure, find name = some procedure →
      Text.asciiLower procedure.name = Text.asciiLower name) :
    (lowerNames (names.filterMap find)).Sublist (names.map Text.asciiLower) := by
  induction names with
  | nil => exact .slnil
  | cons name rest induction =>
      have later := induction fun other member => own other (.tail _ member)
      cases found : find name with
      | none =>
          rw [List.filterMap_cons_none found]
          exact .cons _ later
      | some procedure =>
          rw [List.filterMap_cons_some found, List.map_cons, ← own name (.head _) procedure found]
          exact .cons_cons _ later

namespace Module

/-- The procedures that a module runs on its own. `entries` are all procedures with the name of an entry
point, in the order of these names. `callbacks` are all others whose name ends like that of an event
handler, in the order of their names. -/
structure Selects (source : Module) (entries callbacks : List Procedure) : Prop where
  mem_entries : ∀ procedure, procedure ∈ entries ↔ procedure ∈ source.procedures ∧
    Text.asciiLower procedure.name ∈ entryPointNames.map Text.asciiLower
  ordered_entries : (lowerNames entries).Sublist (entryPointNames.map Text.asciiLower)
  mem_callbacks : ∀ procedure, procedure ∈ callbacks ↔ procedure ∈ source.procedures ∧
    procedure ∉ entries ∧ ∃ ending ∈ callbackEndings,
      (Text.asciiLower ending).toList <:+ (Text.asciiLower procedure.name).toList
  ordered_callbacks : (lowerNames callbacks).Pairwise (· < ·)

variable {source : Module}

theorem sublist_filterMap_procedure? (source : Module) (names : List String) :
    (lowerNames (names.filterMap source.procedure?)).Sublist (names.map Text.asciiLower) := by
  refine sublist_lowerNames_filterMap fun name _ procedure found => ?_
  have same := List.find?_some found
  exact Text.sameIgnoringCase_iff.1 same

theorem isCallbackName_iff {name : String} :
    isCallbackName name = true ↔ ∃ ending ∈ callbackEndings,
      (Text.asciiLower ending).toList <:+ (Text.asciiLower name).toList := by
  rw [isCallbackName, List.any_eq_true]
  simp only [Text.endsWith_iff]

section

variable (distinct : (lowerNames source.procedures).Nodup)
include distinct

theorem procedure?_eq_some_iff {name : String} {procedure : Procedure} :
    source.procedure? name = some procedure ↔
      procedure ∈ source.procedures ∧ Text.asciiLower procedure.name = Text.asciiLower name := by
  unfold procedure?
  constructor
  · intro found
    have same := List.find?_some found
    exact ⟨List.mem_of_find?_eq_some found, Text.sameIgnoringCase_iff.1 same⟩
  · rintro ⟨member, same⟩
    cases found : source.procedures.find? fun other => Text.sameIgnoringCase other.name name with
    | none => exact absurd (Text.sameIgnoringCase_iff.2 same) (List.find?_eq_none.1 found _ member)
    | some other =>
        have sameToo := List.find?_some found
        rw [Text.sameIgnoringCase_iff, ← same] at sameToo
        rw [List.inj_on_of_nodup_map distinct (List.mem_of_find?_eq_some found) member sameToo]

theorem mem_entryPoints_iff {procedure : Procedure} :
    procedure ∈ source.entryPoints ↔ procedure ∈ source.procedures ∧
      Text.asciiLower procedure.name ∈ entryPointNames.map Text.asciiLower := by
  rw [entryPoints, List.mem_filterMap, List.mem_map]
  constructor
  · rintro ⟨name, isName, found⟩
    obtain ⟨member, same⟩ := (procedure?_eq_some_iff distinct).1 found
    exact ⟨member, name, isName, same.symm⟩
  · rintro ⟨member, name, isName, same⟩
    exact ⟨name, isName, (procedure?_eq_some_iff distinct).2 ⟨member, same.symm⟩⟩

theorem mem_callbacks_iff {procedure : Procedure} :
    procedure ∈ source.callbacks ↔ procedure ∈ source.procedures ∧
      procedure ∉ source.entryPoints ∧ ∃ ending ∈ callbackEndings,
        (Text.asciiLower ending).toList <:+ (Text.asciiLower procedure.name).toList := by
  have isEntryPoint (member : procedure ∈ source.procedures) :
      (source.entryPoints.any fun entry => Text.sameIgnoringCase entry.name procedure.name) = true ↔
        procedure ∈ source.entryPoints := by
    rw [List.any_eq_true]
    constructor
    · rintro ⟨entry, isEntry, same⟩
      have entryMember := ((mem_entryPoints_iff distinct).1 isEntry).1
      rw [Text.sameIgnoringCase_iff] at same
      rwa [← List.inj_on_of_nodup_map distinct entryMember member same]
    · intro isEntry
      exact ⟨procedure, isEntry, Text.sameIgnoringCase_iff.2 rfl⟩
  unfold callbacks
  dsimp only
  rw [List.mem_mergeSort, List.mem_filter, Bool.and_eq_true, isCallbackName_iff, Bool.not_eq_true',
    ← Bool.not_eq_true]
  apply and_congr_right
  intro member
  rw [isEntryPoint member]

theorem nodup_callbacks : (lowerNames source.callbacks).Nodup := by
  unfold callbacks lowerNames
  rw [((List.mergeSort_perm _ _).map _).nodup_iff]
  exact (List.filter_sublist.map _).nodup distinct

theorem ordered_callbacks : (lowerNames source.callbacks).Pairwise (· < ·) := by
  refine ordered_lowerNames_mergeSort (fun left right => ?_) ((List.filter_sublist.map _).nodup distinct)
  simp only [Bool.not_eq_true', decide_eq_false_iff_not, String.not_lt]

theorem selects : source.Selects source.entryPoints source.callbacks where
  mem_entries _ := mem_entryPoints_iff distinct
  ordered_entries := sublist_filterMap_procedure? source entryPointNames
  mem_callbacks _ := mem_callbacks_iff distinct
  ordered_callbacks := ordered_callbacks distinct

end

def selected (source : Module) : List Procedure :=
  let found := source.entryPoints ++ source.callbacks
  if found.isEmpty then source.candidates else found

theorem nodup_selected (distinct : (lowerNames source.procedures).Nodup) :
    (lowerNames source.selected).Nodup := by
  unfold selected
  dsimp only
  split
  · exact (List.filter_sublist.map _).nodup distinct
  · have entries : (lowerNames source.entryPoints).Nodup :=
      (sublist_filterMap_procedure? source entryPointNames).nodup nodup_entryPointNames
    unfold lowerNames at entries ⊢
    rw [List.map_append, List.nodup_append]
    refine ⟨entries, nodup_callbacks distinct, ?_⟩
    intro name inEntries other inCallbacks same
    obtain ⟨entry, isEntry, rfl⟩ := List.mem_map.1 inEntries
    obtain ⟨callback, isCallback, rfl⟩ := List.mem_map.1 inCallbacks
    obtain ⟨callbackMember, noEntry, -⟩ := (mem_callbacks_iff distinct).1 isCallback
    have entryMember := ((mem_entryPoints_iff distinct).1 isEntry).1
    rw [List.inj_on_of_nodup_map distinct entryMember callbackMember same] at isEntry
    exact noEntry isEntry

theorem mem_of_mem_selected (distinct : (lowerNames source.procedures).Nodup)
    {procedure : Procedure} (member : procedure ∈ source.selected) :
    procedure ∈ source.procedures := by
  unfold selected at member
  dsimp only at member
  split at member
  · exact (List.mem_filter.1 member).1
  · rcases List.mem_append.1 member with isEntry | isCallback
    · exact ((mem_entryPoints_iff distinct).1 isEntry).1
    · exact ((mem_callbacks_iff distinct).1 isCallback).1

end Module

/-! ## Announcements -/

def announcedIn (actions : List Action) : List String :=
  (actions.filter fun action => action.kind ∈ announcementKinds).map (·.value)

def State.announced (state : State) : List String :=
  announcedIn state.run.actions.toList

theorem announcedIn_append (left right : List Action) :
    announcedIn (left ++ right) = announcedIn left ++ announcedIn right := by
  simp only [announcedIn, List.filter_append, List.map_append]

/-- However a state changes during an evaluation, nothing is announced. -/
theorem State.Evolves.announced_eq {role : ErrorRole} {before after : State}
    (evolves : before.Evolves role after) : after.announced = before.announced := by
  induction evolves with
  | freely same =>
      -- The actions are on the account, which is the same.
      have sameActions := congrArg Account.actions same
      exact congrArg (fun actions => announcedIn actions.toList) sameActions
  | trans _ _ left right => exact right.trans left
  | report state action quiet =>
      unfold State.announced
      rw [Array.toList_push, announcedIn_append]
      simp [announcedIn, quiet]
  | withBlock _ _ inside => exact inside
  | receiver _ _ _ _ outside => exact outside
  | call _ inside announced => exact announced
  | _ => rfl

theorem Eval.IsComposed.announced_eq {α : Type} {role : ErrorRole} {action : Eval α}
    (composed : action.IsComposed role) {environment : Environment} {state after : State}
    {value : α} (ran : action environment state = .ok value after) :
    after.announced = state.announced := by
  rw [← Eval.after_of_ok ran]
  exact (composed.evolves environment state).announced_eq

namespace Module

theorem runEntries_announces {kind : String} (announces : kind ∈ announcementKinds)
    {procedures : List Procedure}
    (noNul : ∀ procedure ∈ procedures, '\x00' ∉ procedure.name.toList)
    {environment : Environment} {state after : State}
    (ran : runEntries kind procedures environment state = .ok () after) :
    after.announced = state.announced ++ procedures.map (·.name) := by
  induction procedures generalizing state with
  | nil =>
      cases ran
      exact (List.append_nil _).symm
  | cons procedure rest induction =>
      obtain ⟨noNulFirst, noNulRest⟩ := List.forall_mem_cons.1 noNul
      obtain ⟨_, reported, reports, ranEntry⟩ := Running.ok_of_bind ran
      obtain ⟨_, entered, enters, ranRest⟩ := Running.ok_of_bind ranEntry
      rw [Eval.report_eq noNulFirst] at reports
      cases reports
      rw [induction noNulRest ranRest, (runEntry_isComposed procedure []).announced_eq enters]
      unfold State.announced State.reporting
      dsimp only
      rw [Array.toList_append, announcedIn_append, List.append_assoc]
      simp [announcedIn, announces]

theorem runAll_announces {source : Module}
    (noNul : ∀ procedure ∈ source.selected, '\x00' ∉ procedure.name.toList)
    {environment : Environment} {state after : State} {report : Report}
    (ran : source.runAll environment state = .ok report after) :
    report.entryPoints = source.selected.map (·.name) ∧
      announcedIn report.actions = state.announced ++ source.selected.map (·.name) := by
  obtain ⟨_, loaded, loads, ran⟩ := Running.ok_of_bind ran
  rw [← source.load_isComposed.announced_eq loads]
  have reported {kind : String} (announces : kind ∈ announcementKinds)
      {procedures : List Procedure}
      (noNul : ∀ procedure ∈ procedures, '\x00' ∉ procedure.name.toList)
      (ran : (do
        runEntries kind procedures
        let ran ← pure procedures
        return Report.ofRun (← get).run (ran.map (·.name)) : Eval Report) environment loaded =
          .ok report after) :
      report.entryPoints = procedures.map (·.name) ∧
        announcedIn report.actions = loaded.announced ++ procedures.map (·.name) := by
    obtain ⟨_, ended, runs, ran⟩ := Running.ok_of_bind ran
    cases ran
    exact ⟨rfl, runEntries_announces announces noNul runs⟩
  unfold selected at noNul ⊢
  dsimp only at noNul ran ⊢
  split at ran <;> rename_i isEmpty
  · rw [if_pos isEmpty] at noNul ⊢
    exact reported (by decide) noNul ran
  · rw [if_neg isEmpty] at noNul ⊢
    exact reported (by decide) noNul ran

end Module

/-- The report of a run that has run the right procedures of a module once each, in order: its entry points
and then its event handlers, or if it has neither, every `Sub` without parameters. Exactly these were
announced, whatever else was reported. -/
structure Report.FollowsSelection (report : Report) (source : Module) : Prop where
  selected : ∃ entries callbacks, source.Selects entries callbacks ∧
    report.entryPoints =
      (if entries ++ callbacks = [] then
        source.procedures.filter fun procedure =>
          procedure.kind == .sub && procedure.parameters.isEmpty
      else entries ++ callbacks).map (·.name)
  nodup : report.entryPoints.Nodup
  announced : announcedIn report.actions = report.entryPoints

namespace Emulator

/-- If the names of the procedures are distinct without regard to case and no NUL is in them, a run that
gives a report has run the right ones. -/
theorem run_announces {emulator : Emulator} {report : Report}
    (distinct : (lowerNames emulator.source.procedures).Nodup)
    (noNul : ∀ procedure ∈ emulator.source.procedures, '\x00' ∉ procedure.name.toList)
    (reported : emulator.run.1 = .ok report) : report.FollowsSelection emulator.source := by
  have ends : ∃ after, emulator.source.runAll emulator.runEnvironment
      (.start emulator.runEnvironment emulator.sink emulator.heap emulator.caches) =
        .ok report after := by
    unfold run performRun perform at reported
    dsimp only at reported
    split at reported
    · rename_i value after ran
      cases reported
      exact ⟨after, ran⟩
    · cases reported
  obtain ⟨after, ran⟩ := ends
  have noNulSelected : ∀ procedure ∈ emulator.source.selected, '\x00' ∉ procedure.name.toList :=
    fun procedure member => noNul procedure (Module.mem_of_mem_selected distinct member)
  obtain ⟨sameNames, announced⟩ := Module.runAll_announces noNulSelected ran
  refine ⟨⟨_, _, Module.selects distinct, ?_⟩, ?_, ?_⟩
  · rw [sameNames]
    unfold Module.selected Module.candidates
    simp only [List.isEmpty_iff]
  · rw [sameNames]
    have distinctNames := Module.nodup_selected distinct
    unfold lowerNames at distinctNames
    rw [← Function.comp_def Text.asciiLower, ← List.map_map] at distinctNames
    exact distinctNames.of_map _
  · rw [announced, sameNames]
    rfl

private def requestingEmulator : Emulator :=
  { source := { procedures := [
      { name := "Sheet_Activate", kind := .sub, body := [] },
      { name := "Helper", kind := .sub, body := [] },
      { name := "autoopen"
        kind := .sub
        body := [.call (.call (.member (.var "http") "Open")
          [.literal (.text "Found Entry Point"), .literal (.text "Helper")])] }] } }

private def requestReport : Report :=
  { entryPoints := ["autoopen", "Sheet_Activate"]
    actions := [
      { kind := "Found Entry Point", value := "autoopen", description := "" },
      { kind := "FOUND ENTRY POINT"
        value := "Helper"
        description := "Interesting Function Call" },
      { kind := "Found Entry Point", value := "Sheet_Activate", description := "" }] }

set_option maxRecDepth 100000 in
private theorem requestingEmulator_run : requestingEmulator.run.1 = .ok requestReport := by
  decide +kernel

/-- A request is not taken for an announcement. -/
theorem run_announces_requesting :
    let procedures := requestingEmulator.source.procedures
    (lowerNames procedures).Nodup ∧
      (∀ procedure ∈ procedures, '\x00' ∉ procedure.name.toList) ∧
      requestingEmulator.run.1 = .ok requestReport ∧
      requestReport.FollowsSelection requestingEmulator.source := by
  have distinct : (lowerNames requestingEmulator.source.procedures).Nodup := by decide +kernel
  have noNul : ∀ procedure ∈ requestingEmulator.source.procedures,
      '\x00' ∉ procedure.name.toList := by
    decide +kernel
  exact ⟨distinct, noNul, requestingEmulator_run,
    run_announces distinct noNul requestingEmulator_run⟩

end Emulator

end MacroSandbox
